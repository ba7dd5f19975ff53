import DeviceGateway.Home.State

/-
  What sends do to queues. A text that is accepted goes to the end of its queue, a text that is
  refused leaves no trace there, and a send touches no session but its own. Whoever reaches the
  sessions by sends alone therefore makes of each of them what some texts, sent in turn, make of it
  (`OnlySent`); the commands of a gateway are of this kind (`commands_sendsOnly`).
-/

namespace DeviceGateway.Channel

namespace Session

/-- The session after texts were sent to it in turn, and those of them that it accepted. -/
def sendAll : Session → List String → Session × List String
  | s, [] => (s, [])
  | s, text :: texts =>
    let (s₁, accepted) := s.send text
    let (s₂, rest) := s₁.sendAll texts
    (s₂, if accepted then text :: rest else rest)

/-- Is somebody there who holds the session, and somebody who listens? -/
def isPresent (s : Session) : Bool := s.held && s.listening

/-! ## One text -/

/-- A send is one of three things: an acceptance, a refusal, or an overflow. -/
theorem send_cases (s : Session) (text : String) :
    (s.state = .accepting ∧ s.listening = true ∧ s.queue.length < outboundQueueLimit ∧
      s.send text = ({ s with queue := s.queue ++ [text] }, true)) ∨
    ((s.state ≠ .accepting ∨ s.listening = false) ∧ s.send text = (s, false)) ∨
    (s.state = .accepting ∧ outboundQueueLimit ≤ s.queue.length ∧
      s.send text = ({ s with state := .closing }, false)) := by
  unfold send
  by_cases hstate : s.state = .accepting
  · by_cases hlist : s.listening = true
    · by_cases hfull : outboundQueueLimit ≤ s.queue.length
      · simp [hstate, hlist, hfull]
      · simp [hstate, hlist, hfull, Nat.lt_of_not_le hfull]
    · simp [hstate, hlist]
  · simp [hstate]

theorem send_queue (s : Session) (text : String) :
    (s.send text).1.queue = s.queue ++ (if (s.send text).2 then [text] else []) := by
  rcases send_cases s text with ⟨_, _, _, h⟩ | ⟨_, h⟩ | ⟨_, _, h⟩ <;> rw [h] <;> simp

/-- No send makes a session come or go. -/
theorem send_isPresent (s : Session) (text : String) :
    (s.send text).1.isPresent = s.isPresent := by
  rcases send_cases s text with ⟨_, _, _, h⟩ | ⟨_, h⟩ | ⟨_, _, h⟩ <;> rw [h] <;> rfl

/-- A session that listens and has room accepts. -/
theorem send_of_room {s : Session} (text : String) (hs : s.state = .accepting)
    (hl : s.listening = true) (hq : s.queue.length < outboundQueueLimit) :
    s.send text = ({ s with queue := s.queue ++ [text] }, true) := by
  unfold send
  simp [hs, hl, Nat.not_le.mpr hq]

/-- A session that accepts no more is not touched by sends. -/
theorem send_of_refusing {s : Session} (text : String) (hs : s.state ≠ .accepting) :
    s.send text = (s, false) := by
  unfold send
  rw [if_pos hs]

/-! ## Texts in turn -/

theorem sendAll_queue (s : Session) (texts : List String) :
    (s.sendAll texts).1.queue = s.queue ++ (s.sendAll texts).2 := by
  induction texts generalizing s with
  | nil => simp [sendAll]
  | cons text texts ih =>
    simp only [sendAll]
    rw [ih, send_queue]
    cases (s.send text).2 <;> simp

theorem sendAll_isPresent (s : Session) (texts : List String) :
    (s.sendAll texts).1.isPresent = s.isPresent := by
  induction texts generalizing s with
  | nil => rfl
  | cons text texts ih =>
    simp only [sendAll]
    rw [ih, send_isPresent]

theorem sendAll_of_refusing {s : Session} (texts : List String) (hs : s.state ≠ .accepting) :
    s.sendAll texts = (s, []) := by
  induction texts with
  | nil => rfl
  | cons text texts ih =>
    simp only [sendAll, send_of_refusing text hs, ih]
    rfl

/-- The texts accepted are of those sent. -/
theorem sendAll_sublist (s : Session) (texts : List String) :
    (s.sendAll texts).2.Sublist texts := by
  induction texts generalizing s with
  | nil => exact List.Sublist.refl _
  | cons text texts ih =>
    have hrest := ih (s.send text).1
    simp only [sendAll]
    split
    · exact hrest.cons_cons text
    · exact hrest.cons text

/-- A queue that is not full in the end has never refused a text. -/
theorem sendAll_of_room {s : Session} {texts : List String} (hs : s.state = .accepting)
    (hl : s.listening = true) (hq : (s.sendAll texts).1.queue.length < outboundQueueLimit) :
    s.sendAll texts = ({ s with queue := s.queue ++ texts }, texts) := by
  induction texts generalizing s with
  | nil => simp [sendAll]
  | cons text texts ih =>
    have hroom : s.queue.length < outboundQueueLimit := by
      rw [sendAll_queue, List.length_append] at hq
      omega
    have hsend := send_of_room text hs hl hroom
    simp only [sendAll, hsend] at hq ⊢
    rw [ih (s := { s with queue := s.queue ++ [text] }) hs hl hq]
    simp

end Session

namespace Sessions

theorem get?_modify (ss : Sessions) (id j : Nat) (f : Session → Session) :
    (ss.modify id f).get? j = if id = j then (ss.get? j).map f else ss.get? j := by
  unfold get? modify
  rw [List.getElem?_modify]
  by_cases hij : id = j
  · simp [hij]
  · simp [hij]

theorem get?_modify_self {ss : Sessions} {id : Nat} {s : Session} (f : Session → Session)
    (h : ss.get? id = some s) : (ss.modify id f).get? id = some (f s) := by
  rw [get?_modify, if_pos rfl, h]
  rfl

theorem modify_congr {ss : Sessions} {id : Nat} {s : Session} {f g : Session → Session}
    (hs : ss.get? id = some s) (hfg : f s = g s) : ss.modify id f = ss.modify id g := by
  unfold modify
  congr 1
  refine List.ext_getElem? fun j => ?_
  rw [List.getElem?_modify, List.getElem?_modify]
  by_cases hij : id = j
  · have hj : ss.all[j]? = some s := hij ▸ hs
    simp [hij, hj, hfg]
  · simp [hij]

theorem modify_modify (ss : Sessions) (id : Nat) (f g : Session → Session) :
    (ss.modify id f).modify id g = ss.modify id fun s => g (f s) :=
  congrArg (Sessions.mk · ss.entries) (List.modify_modify_eq f g id ss.all)

/-- A session that is what it was. -/
theorem modify_self {ss : Sessions} {id : Nat} {s : Session} (hs : ss.get? id = some s) :
    (ss.modify id fun _ => s) = ss :=
  (modify_congr (g := fun s => s) hs rfl).trans
    (congrArg (Sessions.mk · ss.entries) (List.modify_id id ss.all))

theorem get?_create_self (ss : Sessions) (owner : Principal) :
    (ss.create owner).1.get? (ss.create owner).2 = some { owner } := by
  simp [create, get?]

theorem send_of_get? {ss : Sessions} {id : Nat} {s : Session} (text : String)
    (h : ss.get? id = some s) :
    ss.send id text = (ss.modify id fun _ => (s.send text).1, (s.send text).2) := by
  unfold send
  rw [h]

theorem send_of_none {ss : Sessions} {id : Nat} (text : String) (h : ss.get? id = none) :
    ss.send id text = (ss, false) := by
  unfold send
  rw [h]

/-- A send changes the session that it is for, and no other. -/
theorem get?_send (ss : Sessions) (id j : Nat) (text : String) :
    (ss.send id text).1.get? j =
      if id = j then (ss.get? j).map (fun s => (s.send text).1) else ss.get? j := by
  cases h : ss.get? id with
  | none =>
    rw [send_of_none text h]
    by_cases hij : id = j
    · rw [if_pos hij, ← hij, h]
      rfl
    · rw [if_neg hij]
  | some s =>
    rw [send_of_get? text h, get?_modify]
    by_cases hij : id = j
    · rw [if_pos hij, if_pos hij, ← hij, h]
      rfl
    · rw [if_neg hij, if_neg hij]

/-! ## Sends alone -/

/-- Every session is what some texts, sent in turn, have made of it. -/
def OnlySent (ss ss' : Sessions) : Prop :=
  ∀ id s, ss.get? id = some s → ∃ texts, ss'.get? id = some (s.sendAll texts).1

theorem OnlySent.refl (ss : Sessions) : OnlySent ss ss := fun _ _ h => ⟨[], h⟩

/-- Of a text sent to sessions in turn, each gets as many copies as its number occurs. -/
theorem get?_sendAll (text : String) (ss : Sessions) (ids : List Nat) (j : Nat) :
    (sendAll text ss ids).1.get? j =
      (ss.get? j).map fun s => (s.sendAll (List.replicate (ids.count j) text)).1 := by
  unfold sendAll
  generalize (0 : Nat) = n
  induction ids generalizing ss n with
  | nil =>
    show ss.get? j = (ss.get? j).map fun s => s
    rw [Option.map_id']
  | cons id ids ih =>
    rw [List.foldl_cons, ih, get?_send, List.count_cons]
    by_cases hij : id = j
    · rw [if_pos hij, if_pos (beq_iff_eq.mpr hij), Option.map_map]
      rfl
    · rw [if_neg hij, if_neg fun h => hij (beq_iff_eq.mp h), Nat.add_zero]

/-- Of an event, each session gets as many copies as it is registered. -/
theorem get?_broadcast (ss : Sessions) (event : Push) (j : Nat) :
    (ss.broadcast event).1.get? j = (ss.get? j).map fun s =>
      (s.sendAll (List.replicate (ss.prune.entries.count j) event.text)).1 :=
  get?_sendAll event.text ss.prune ss.prune.entries j

theorem send_entries (ss : Sessions) (id : Nat) (text : String) :
    (ss.send id text).1.entries = ss.entries := by
  unfold send
  cases ss.get? id <;> rfl

theorem sendAll_entries (text : String) (ss : Sessions) (ids : List Nat) :
    (sendAll text ss ids).1.entries = ss.entries := by
  unfold sendAll
  generalize (0 : Nat) = n
  induction ids generalizing ss n with
  | nil => rfl
  | cons id ids ih =>
    rw [List.foldl_cons, ih]
    exact send_entries ss id text

/-- Sends leave the registry as it is; a broadcast prunes it first. -/
theorem broadcast_entries (ss : Sessions) (event : Push) :
    (ss.broadcast event).1.entries = ss.prune.entries :=
  sendAll_entries event.text ss.prune ss.prune.entries

theorem onlySent_broadcast (ss : Sessions) (event : Push) :
    OnlySent ss (ss.broadcast event).1 := by
  intro j s hs
  rw [get?_broadcast, hs]
  exact ⟨_, rfl⟩

end Sessions

/-! ## Commands -/

namespace CommandTable

variable {σ : Type} {t : CommandTable σ} {P : String → Handler σ → Prop}

/-- Does every handler of the table, under its name, have a property? -/
def All (P : String → Handler σ → Prop) (t : CommandTable σ) : Prop :=
  ∀ entry ∈ t.handlers, P entry.1 entry.2

theorem mem_insertHandler {name : String} {f : Handler σ} {entry : String × Handler σ}
    {hs : List (String × Handler σ)} (h : entry ∈ insertHandler name f hs) :
    entry = (name, f) ∨ entry ∈ hs := by
  induction hs with
  | nil => exact Or.inl (List.mem_singleton.mp h)
  | cons e hs ih =>
    obtain ⟨n, g⟩ := e
    unfold insertHandler at h
    split at h
    · simpa using h
    · split at h
      · rcases List.mem_cons.mp h with h | h
        · exact Or.inl h
        · exact Or.inr (List.mem_cons_of_mem _ h)
      · rcases List.mem_cons.mp h with h | h
        · exact Or.inr (h ▸ List.mem_cons_self)
        · exact (ih h).imp_right (List.mem_cons_of_mem _)

theorem All.register (ht : t.All P) {name : String} {f : Handler σ} (hf : P name f) :
    (t.register name f).All P := by
  intro entry hmem
  rcases mem_insertHandler hmem with h | h
  · subst h
    exact hf
  · exact ht entry h

theorem All.of_find? (ht : t.All P) {name : String} {f : Handler σ} (hf : t.find? name = some f) :
    P name f := by
  unfold find? at hf
  obtain ⟨⟨n, g⟩, hfound, rfl⟩ := Option.map_eq_some_iff.mp hf
  have hname : n = name := by simpa using List.find?_some hfound
  exact hname ▸ ht _ (List.mem_of_find?_eq_some hfound)

/-- A request is handled by the handler of its name, or changes nothing. -/
theorem All.dispatch (ht : t.All P) (call : Call) (w : σ) :
    t.dispatch call w = (w, respond call.request.msgid [] (some .invalidArguments)) ∨
      ∃ f, P call.request.command f ∧ t.dispatch call w =
        ((f call w).world, respond call.request.msgid (f call w).edits (f call w).failure) := by
  unfold CommandTable.dispatch
  cases hfind : t.find? call.request.command with
  | none => exact Or.inl rfl
  | some f => exact Or.inr ⟨f, ht.of_find? hfind, rfl⟩

/-- Every handler reaches the sessions by sends alone. -/
def SendsOnly (t : CommandTable Home) : Prop :=
  t.All fun _ f => ∀ (call : Call) (h : Home),
    Sessions.OnlySent h.sessions (f call h).world.sessions

/-- What a request does to the sessions, its handler does by sends. -/
theorem SendsOnly.dispatch {t : CommandTable Home} (ht : t.SendsOnly) (call : Call) (h : Home) :
    Sessions.OnlySent h.sessions (t.dispatch call h).1.sessions := by
  rcases All.dispatch ht call h with heq | ⟨f, hf, heq⟩
  · rw [heq]
    exact Sessions.OnlySent.refl _
  · rw [heq]
    exact hf call h

end CommandTable

end DeviceGateway.Channel

namespace DeviceGateway.Home

open Channel

/-- What holds of handlers that change nothing, and of the one that changes devices, holds of all
commands of a gateway. -/
theorem commands_all {P : String → Handler Home → Prop}
    (hstill : ∀ name f, name ≠ "setdevice" → (∀ call h, (f call h).world = h) → P name f)
    (hset : P "setdevice" setDevice) : commands.All P := by
  have hempty : (CommandTable.mk [] : CommandTable Home).All P := fun _ hmem => by cases hmem
  unfold commands CommandTable.core
  exact (((hempty.register (hstill _ _ (by decide) fun _ _ => rfl)).register
    (hstill _ _ (by decide) fun _ _ => rfl)).register
    (hstill _ _ (by decide) fun _ _ => rfl)).register hset

/-- The home after a change: stored, and announced. -/
def stored (h : Home) (name : String) (state : Json) : Home :=
  { devices := Fields.insert name state h.devices
    sessions := (h.sessions.broadcast (change name state)).1 }

/-- A change to a device that there is, by somebody who may, is made. Any other is refused. -/
theorem set_cases (h : Home) (who : Principal) (name : String) (state : Json) :
    ((who.allows .control && (h.get? name).isSome) = true ∧
      h.set who name state = .ok (h.stored name state)) ∨
    ((who.allows .control && (h.get? name).isSome) = false ∧
      ∃ e, h.set who name state = .error e) := by
  unfold set
  cases hallow : who.allows .control with
  | false => exact Or.inr ⟨rfl, .forbidden, rfl⟩
  | true =>
    cases hget : h.get? name with
    | none => exact Or.inr ⟨rfl, .notFound name, rfl⟩
    | some _ => exact Or.inl ⟨rfl, rfl⟩

/-- A change is one broadcast, or there is none. -/
theorem setDevice_world (call : Call) (h : Home) :
    (setDevice call h).world = h ∨
      ∃ name state, (setDevice call h).world = h.stored name state := by
  unfold setDevice
  split
  · next name state _ _ =>
    rcases set_cases h call.owner name state with ⟨_, hset⟩ | ⟨_, e, hset⟩
    · rw [hset]
      exact Or.inr ⟨name, state, rfl⟩
    · rw [hset]
      exact Or.inl rfl
  · exact Or.inl rfl

/-- The commands of a gateway reach the sessions by sends alone. -/
theorem commands_sendsOnly : commands.SendsOnly := by
  refine commands_all ?_ ?_
  · intro name f _ hf call h
    rw [hf]
    exact Sessions.OnlySent.refl _
  · intro call h
    rcases setDevice_world call h with heq | ⟨name, state, heq⟩
    · rw [heq]
      exact Sessions.OnlySent.refl _
    · rw [heq]
      exact Sessions.onlySent_broadcast _ _

end DeviceGateway.Home
