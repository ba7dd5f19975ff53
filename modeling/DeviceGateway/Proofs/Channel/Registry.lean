import DeviceGateway.Proofs.Channel.Queue
import Mathlib.Data.List.Nodup

/-
  The registry over the life of its sessions. Sessions come, are registered, get texts, give them to
  their tasks, are shut down and go, in any order; the registry forgets those that nobody holds only
  when it is looked through. What one event does to one session is a `Moved`, and all that is known
  of sessions at all times follows from it (`Kept`): queues are bounded, and what a session has
  given to its task and what still waits is what it has accepted. A broadcast goes once to every
  registered session that takes it, and to no other (`broadcast_reaches_accepting`).
-/

namespace DeviceGateway.Channel

/-! ## One session -/

namespace Session

/-- What a session was and what it becomes, when it accepts some texts and gives some to its task:
nobody comes back to it, its queue stays within bounds, and no text goes in or out otherwise. -/
structure Moved (s s' : Session) (accepted taken : List String) : Prop where
  held : s'.held = true → s.held = true
  listening : s'.listening = true → s.listening = true ∧ taken ++ s'.queue = s.queue ++ accepted
  deaf : (s.listening = false → s.queue = []) → s'.listening = false → s'.queue = []
  length : s.queue.length ≤ outboundQueueLimit → s'.queue.length ≤ outboundQueueLimit
  shut : s.state ≠ .accepting → s'.state ≠ .accepting ∧ accepted = []
  front : taken <+: s.queue

variable {s s₁ s₂ : Session} {accepted more : List String}

theorem Moved.refl (s : Session) : Moved s s [] [] :=
  ⟨id, fun h => ⟨h, (List.append_nil _).symm⟩, id, id, fun h => ⟨h, rfl⟩, List.nil_prefix⟩

/-- What is accepted in turn is accepted together. -/
theorem Moved.append (h₁ : Moved s s₁ accepted []) (h₂ : Moved s₁ s₂ more []) :
    Moved s s₂ (accepted ++ more) [] := by
  refine ⟨fun h => h₁.held (h₂.held h), ?_, fun h => h₂.deaf (h₁.deaf h),
    fun h => h₂.length (h₁.length h), ?_, List.nil_prefix⟩
  · intro h
    obtain ⟨hmid, hqueue₂⟩ := h₂.listening h
    obtain ⟨hbefore, hqueue₁⟩ := h₁.listening hmid
    rw [List.nil_append] at hqueue₁ hqueue₂ ⊢
    exact ⟨hbefore, by rw [hqueue₂, hqueue₁, List.append_assoc]⟩
  · intro h
    obtain ⟨hmid, rfl⟩ := h₁.shut h
    obtain ⟨hafter, rfl⟩ := h₂.shut hmid
    exact ⟨hafter, rfl⟩

theorem moved_send (s : Session) (text : String) :
    Moved s (s.send text).1 (if (s.send text).2 then [text] else []) [] := by
  rcases send_cases s text with ⟨hstate, hlist, hroom, h⟩ | ⟨_, h⟩ | ⟨hstate, _, h⟩
  · rw [h]
    refine ⟨id, fun hl => ⟨hl, rfl⟩, fun _ hdeaf => ?_, fun _ => ?_,
      fun hshut => absurd hstate hshut, List.nil_prefix⟩
    · exact absurd (hlist.symm.trans hdeaf) nofun
    · show (s.queue ++ [text]).length ≤ outboundQueueLimit
      rw [List.length_append]
      exact hroom
  · rw [h]
    exact Moved.refl s
  · rw [h]
    exact ⟨id, fun hl => ⟨hl, (List.append_nil _).symm⟩, id, id,
      fun hshut => absurd hstate hshut, List.nil_prefix⟩

theorem moved_sendAll (s : Session) (texts : List String) :
    Moved s (s.sendAll texts).1 (s.sendAll texts).2 [] := by
  induction texts generalizing s with
  | nil => exact Moved.refl s
  | cons text texts ih =>
    have h := (moved_send s text).append (ih (s.send text).1)
    unfold sendAll
    dsimp only
    split
    · next haccepted =>
      rw [if_pos haccepted] at h
      exact h
    · next hrefused =>
      rw [if_neg hrefused] at h
      exact h

theorem moved_take {text : String} {s' : Session} (h : s.take? = some (text, s')) :
    Moved s s' [] [text] := by
  obtain ⟨owner, state, queue, listening, held⟩ := s
  cases queue with
  | nil => cases h
  | cons t rest =>
    cases h
    refine ⟨id, fun hl => ⟨hl, (List.append_nil _).symm⟩, fun hdeaf hl => ?_, fun hle => ?_,
      fun h => ⟨h, rfl⟩, ⟨rest, rfl⟩⟩
    · exact absurd (hdeaf hl) nofun
    · exact Nat.le_of_succ_le hle

theorem moved_shut (s : Session) {state : SessionState} (h : state ≠ .accepting) :
    Moved s { s with state } [] [] :=
  ⟨id, fun hl => ⟨hl, (List.append_nil _).symm⟩, id, id, fun _ => ⟨h, rfl⟩, List.nil_prefix⟩

theorem moved_hangUp (s : Session) : Moved s { s with listening := false, queue := [] } [] [] :=
  ⟨id, nofun, fun _ _ => rfl, fun _ => Nat.zero_le _, fun h => ⟨h, rfl⟩, List.nil_prefix⟩

theorem moved_drop (s : Session) : Moved s { s with held := false } [] [] :=
  ⟨nofun, fun hl => ⟨hl, (List.append_nil _).symm⟩, id, id, fun h => ⟨h, rfl⟩, List.nil_prefix⟩

end Session

/-! ## Who accepts -/

namespace Sessions

/-- Of a text sent to sessions in turn, the sessions that accept it. -/
def takers (text : String) : Sessions → List Nat → List Nat
  | _, [] => []
  | ss, id :: ids =>
    if (ss.send id text).2 then id :: takers text (ss.send id text).1 ids
    else takers text (ss.send id text).1 ids

/-- A session is among them as often as it accepts the text. -/
theorem count_takers (text : String) {ss : Sessions} (ids : List Nat) {id : Nat} {s : Session}
    (hs : ss.get? id = some s) :
    List.replicate ((ss.takers text ids).count id) text =
      (s.sendAll (List.replicate (ids.count id) text)).2 := by
  induction ids generalizing ss s with
  | nil => rfl
  | cons j ids ih =>
    have hafter : (ss.send j text).1.get? id = some (if j = id then (s.send text).1 else s) := by
      rw [get?_send, hs]
      split <;> rfl
    have hrest := ih hafter
    unfold takers
    by_cases hj : j = id
    · subst hj
      rw [if_pos rfl] at hrest
      have hsend : (ss.send j text).2 = (s.send text).2 := by rw [send_of_get? text hs]
      rw [List.count_cons_self, List.replicate_succ, Session.sendAll, hsend]
      dsimp only
      split
      · rw [List.count_cons_self, List.replicate_succ, hrest]
      · exact hrest
    · rw [if_neg hj] at hrest
      rw [List.count_cons_of_ne hj, ← hrest]
      split
      · rw [List.count_cons_of_ne hj]
      · rfl

/-- A session that is not there accepts nothing. -/
theorem count_takers_of_none (text : String) {ss : Sessions} (ids : List Nat) {id : Nat}
    (hs : ss.get? id = none) : (ss.takers text ids).count id = 0 := by
  induction ids generalizing ss with
  | nil => rfl
  | cons j ids ih =>
    have hafter : (ss.send j text).1.get? id = none := by
      rw [get?_send, hs]
      split <;> rfl
    unfold takers
    split
    · next haccepted =>
      have hne : j ≠ id := by
        rintro rfl
        unfold send at haccepted
        rw [hs] at haccepted
        cases haccepted
      rw [List.count_cons_of_ne hne, ih hafter]
    · exact ih hafter

/-- The number that a broadcast gives is theirs. -/
theorem sendAll_count (text : String) (ss : Sessions) (ids : List Nat) :
    (sendAll text ss ids).2 = (ss.takers text ids).length := by
  have hfold : ∀ (ids : List Nat) (ss : Sessions) (n : Nat),
      (ids.foldl (fun (acc : Sessions × Nat) id =>
        ((acc.1.send id text).1, if (acc.1.send id text).2 then acc.2 + 1 else acc.2))
        (ss, n)).2 = n + (ss.takers text ids).length := by
    intro ids
    induction ids with
    | nil => exact fun _ _ => rfl
    | cons id ids ih =>
      intro ss n
      rw [List.foldl_cons, ih, takers]
      dsimp only
      split
      · rw [List.length_cons]
        omega
      · rfl
  exact (hfold ids ss 0).trans (Nat.zero_add _)

/-- When every session is sent the text once, those accept it that would do so at the start. -/
theorem takers_of_nodup (text : String) {ss : Sessions} {ids : List Nat} (h : ids.Nodup) :
    ss.takers text ids = ids.filter fun id => (ss.send id text).2 := by
  have hsame : ∀ {ss ss' : Sessions} (id : Nat), ss'.get? id = ss.get? id →
      (ss'.send id text).2 = (ss.send id text).2 := by
    intro ss ss' id hget
    unfold send
    rw [hget]
    cases ss.get? id <;> rfl
  induction ids generalizing ss with
  | nil => rfl
  | cons j ids ih =>
    obtain ⟨hfresh, hrest⟩ := List.nodup_cons.mp h
    have hfilter : (ids.filter fun id => ((ss.send j text).1.send id text).2) =
        ids.filter fun id => (ss.send id text).2 := by
      refine List.filter_congr fun id hid => hsame id ?_
      have hne : j ≠ id := fun heq => hfresh (heq ▸ hid)
      rw [get?_send, if_neg hne]
    rw [takers, List.filter_cons, ih hrest, hfilter]

end Sessions

/-! ## What happens to sessions -/

/-- The sessions of a gateway in the course of time: those registered so far, in order, and for
each the texts that it has accepted and those that its task has taken. -/
structure Roll where
  sessions : Sessions := {}
  registered : List Nat := []
  accepted : Nat → List String := fun _ => []
  taken : Nat → List String := fun _ => []

namespace Roll

/-- Something that happens to the sessions, at one stroke. -/
inductive Event
  | create (owner : Principal)
  | register (id : Nat)
  | send (id : Nat) (text : String)
  | broadcast (text : String)
  /-- Somebody asks how many sessions are registered. -/
  | count
  /-- The session's task takes the text that waits longest. -/
  | take (id : Nat)
  /-- The session's task shuts the session down, or has done so. -/
  | shut (id : Nat) (isOver : Bool)
  /-- Nobody listens to the session any more, and what waits is lost. -/
  | hangUp (id : Nat)
  /-- Nobody holds the session any more. -/
  | drop (id : Nat)

/-- The texts accepted when these sessions accept one more. -/
def accepting (r : Roll) (text : String) (ids : List Nat) : Nat → List String :=
  fun id => r.accepted id ++ List.replicate (ids.count id) text

/-- A session's task takes the text that waits longest, if there is any. -/
def take (r : Roll) (id : Nat) : Roll :=
  match (r.sessions.get? id).bind Session.take? with
  | none => r
  | some (text, s) =>
    { r with
      sessions := r.sessions.modify id fun _ => s
      taken := fun j => if j = id then r.taken j ++ [text] else r.taken j }

/-- The sessions after an event. Only a session that somebody holds can be registered. -/
def step (r : Roll) : Event → Roll
  | .create owner => { r with sessions := (r.sessions.create owner).1 }
  | .register id =>
    if r.sessions.isHeld id then
      { r with sessions := r.sessions.register id, registered := r.registered ++ [id] }
    else r
  | .send id text =>
    { r with
      sessions := (r.sessions.send id text).1
      accepted := r.accepting text (if (r.sessions.send id text).2 then [id] else []) }
  | .broadcast text =>
    { r with
      sessions := (r.sessions.broadcastText text).1
      accepted := r.accepting text (r.sessions.prune.takers text r.sessions.prune.entries) }
  | .count => { r with sessions := r.sessions.count.1 }
  | .take id => r.take id
  | .shut id isOver =>
    { r with
      sessions := r.sessions.modify id fun s =>
        { s with state := if isOver then .closed else .closing } }
  | .hangUp id =>
    { r with sessions := r.sessions.modify id fun s => { s with listening := false, queue := [] } }
  | .drop id => { r with sessions := r.sessions.modify id fun s => { s with held := false } }

def run (r : Roll) (events : List Event) : Roll := events.foldl step r

variable {r : Roll} {id : Nat} {s : Session}

/-! ## What an event does to one session -/

/-- A session has become this one, by accepting some texts and giving some to its task. -/
def Becomes (r r' : Roll) (id : Nat) (s s' : Session) : Prop :=
  ∃ accepted taken, r'.sessions.get? id = some s' ∧ r'.accepted id = r.accepted id ++ accepted ∧
    r'.taken id = r.taken id ++ taken ∧ s.Moved s' accepted taken

/-- An event that only changes sessions changes one of them. -/
theorem becomes_modify (hs : r.sessions.get? id = some s) (j : Nat) {f : Session → Session}
    (hf : s.Moved (f s) [] []) :
    ∃ s', Becomes r { r with sessions := r.sessions.modify j f } id s s' := by
  refine ⟨if j = id then f s else s, [], [], ?_, (List.append_nil _).symm,
    (List.append_nil _).symm, ?_⟩
  · show (r.sessions.modify j f).get? id = _
    rw [Sessions.get?_modify, hs]
    split <;> rfl
  · split
    · exact hf
    · exact Session.Moved.refl s

theorem becomes_same {r' : Roll} (hs : r'.sessions.get? id = some s)
    (haccepted : r'.accepted id = r.accepted id) (htaken : r'.taken id = r.taken id) :
    ∃ s', Becomes r r' id s s' :=
  ⟨s, [], [], hs, by rw [haccepted, List.append_nil], by rw [htaken, List.append_nil],
    Session.Moved.refl s⟩

theorem becomes_take (hs : r.sessions.get? id = some s) (j : Nat) :
    ∃ s', Becomes r (r.take j) id s s' := by
  unfold take
  split
  · exact becomes_same hs rfl rfl
  · next text s' htake =>
    by_cases hj : j = id
    · subst hj
      rw [hs, Option.bind_some] at htake
      refine ⟨s', [], [text], Sessions.get?_modify_self _ hs, (List.append_nil _).symm,
        if_pos rfl, Session.moved_take htake⟩
    · refine becomes_same ?_ rfl (if_neg (Ne.symm hj))
      show (r.sessions.modify j _).get? id = _
      rw [Sessions.get?_modify, if_neg hj, hs]

/-- Every event moves each session. -/
theorem becomes_step (e : Event) (hs : r.sessions.get? id = some s) :
    ∃ s', Becomes r (r.step e) id s s' := by
  cases e with
  | create owner =>
    have hlt : id < r.sessions.all.length := (List.getElem?_eq_some_iff.mp hs).1
    refine becomes_same ?_ rfl rfl
    show (r.sessions.all ++ [_])[id]? = some s
    rw [List.getElem?_append_left hlt]
    exact hs
  | register j =>
    unfold step
    dsimp only
    split
    · exact becomes_same hs rfl rfl
    · exact becomes_same hs rfl rfl
  | send j text =>
    by_cases hj : j = id
    · subst hj
      have hsend := Sessions.send_of_get? text hs
      refine ⟨(s.send text).1, if (s.send text).2 then [text] else [], [], ?_, ?_,
        (List.append_nil _).symm, s.moved_send text⟩
      · show (r.sessions.send j text).1.get? j = _
        rw [Sessions.get?_send, if_pos rfl, hs]
        rfl
      · show r.accepted j ++ List.replicate (List.count j _) text = _
        rw [hsend]
        dsimp only
        split
        · rw [List.count_singleton_self]
          rfl
        · rfl
    · refine becomes_same ?_ ?_ rfl
      · show (r.sessions.send j text).1.get? id = _
        rw [Sessions.get?_send, if_neg hj, hs]
      · show r.accepted id ++ List.replicate (List.count id _) text = _
        have hcount : List.count id (if (r.sessions.send j text).2 then [j] else []) = 0 := by
          split
          · exact List.count_eq_zero.mpr fun h => hj (List.mem_singleton.mp h).symm
          · rfl
        rw [hcount, List.replicate_zero, List.append_nil]
  | broadcast text =>
    refine ⟨(s.sendAll (List.replicate (r.sessions.prune.entries.count id) text)).1, _, [], ?_, ?_,
      (List.append_nil _).symm, s.moved_sendAll _⟩
    · show (Sessions.sendAll text r.sessions.prune r.sessions.prune.entries).1.get? id = _
      rw [Sessions.get?_sendAll]
      exact congrArg _ hs
    · have hprune : r.sessions.prune.get? id = some s := hs
      exact congrArg (r.accepted id ++ ·) (Sessions.count_takers text _ hprune)
  | count => exact becomes_same hs rfl rfl
  | take j => exact becomes_take hs j
  | shut j isOver => exact becomes_modify hs j (s.moved_shut (by cases isOver <;> exact nofun))
  | hangUp j => exact becomes_modify hs j s.moved_hangUp
  | drop j => exact becomes_modify hs j s.moved_drop

/-- A session that is not there may come, with nothing waiting; it accepts and gives nothing. -/
theorem unborn_step (e : Event) (hs : r.sessions.get? id = none) :
    (r.step e).accepted id = r.accepted id ∧ (r.step e).taken id = r.taken id ∧
      ∀ s', (r.step e).sessions.get? id = some s' → s'.queue = [] := by
  have hmodify : ∀ (j : Nat) (f : Session → Session) (s' : Session),
      (r.sessions.modify j f).get? id = some s' → s'.queue = [] := by
    intro j f s' hs'
    rw [Sessions.get?_modify, hs] at hs'
    split at hs' <;> cases hs'
  have habsent : ∀ s' : Session, r.sessions.get? id = some s' → s'.queue = [] :=
    fun s' hs' => absurd (hs.symm.trans hs') nofun
  cases e with
  | create owner =>
    refine ⟨rfl, rfl, fun s' hs' => ?_⟩
    have hnew : (r.sessions.all ++ [{ owner : Session }])[id]? = some s' := hs'
    rw [List.getElem?_append_right (List.getElem?_eq_none_iff.mp hs)] at hnew
    rw [List.mem_singleton.mp (List.mem_of_getElem? hnew)]
  | register j =>
    unfold step
    dsimp only
    split <;> exact ⟨rfl, rfl, habsent⟩
  | send j text =>
    refine ⟨?_, rfl, fun s' hs' => ?_⟩
    · have hcount : List.count id (if (r.sessions.send j text).2 then [j] else []) = 0 := by
        have h := Sessions.count_takers_of_none text [j] hs
        unfold Sessions.takers at h
        split at h
        · next haccepted =>
          rw [if_pos haccepted]
          exact h
        · next hrefused => rw [if_neg hrefused, List.count_nil]
      show r.accepted id ++ List.replicate (List.count id _) text = _
      rw [hcount, List.replicate_zero, List.append_nil]
    · have hsend : (r.sessions.send j text).1.get? id = some s' := hs'
      rw [Sessions.get?_send, hs] at hsend
      split at hsend <;> cases hsend
  | broadcast text =>
    refine ⟨?_, rfl, fun s' hs' => ?_⟩
    · have hprune : r.sessions.prune.get? id = none := hs
      show r.accepted id ++ List.replicate (List.count id _) text = _
      rw [Sessions.count_takers_of_none text _ hprune, List.replicate_zero, List.append_nil]
    · have hsend : (Sessions.sendAll text r.sessions.prune r.sessions.prune.entries).1.get? id =
          some s' := hs'
      have hprune : r.sessions.prune.get? id = none := hs
      rw [Sessions.get?_sendAll, hprune] at hsend
      cases hsend
  | count => exact ⟨rfl, rfl, habsent⟩
  | take j =>
    unfold step take
    dsimp only
    split
    · exact ⟨rfl, rfl, habsent⟩
    · next text s' htake =>
      have hne : id ≠ j := by
        rintro rfl
        rw [hs] at htake
        cases htake
      exact ⟨rfl, if_neg hne, hmodify _ _⟩
  | shut j isOver => exact ⟨rfl, rfl, hmodify _ _⟩
  | hangUp j => exact ⟨rfl, rfl, hmodify _ _⟩
  | drop j => exact ⟨rfl, rfl, hmodify _ _⟩

/-! ## What an event does to the registry -/

/-- An event registers one session, or at most makes the registry forget those that nobody
holds. -/
theorem entries_step (r : Roll) (e : Event) :
    ((r.step e).registered = r.registered ∧
      ((r.step e).sessions.entries = r.sessions.entries ∨
        (r.step e).sessions.entries = r.sessions.prune.entries)) ∨
    ∃ id, r.sessions.isHeld id = true ∧ (r.step e).registered = r.registered ++ [id] ∧
      (r.step e).sessions = r.sessions.register id := by
  cases e with
  | register id =>
    unfold step
    dsimp only
    split
    · next hheld => exact Or.inr ⟨id, hheld, rfl, rfl⟩
    · exact Or.inl ⟨rfl, Or.inl rfl⟩
  | send id text => exact Or.inl ⟨rfl, Or.inl (Sessions.send_entries _ _ _)⟩
  | broadcast text => exact Or.inl ⟨rfl, Or.inr (Sessions.sendAll_entries _ _ _)⟩
  | count => exact Or.inl ⟨rfl, Or.inr rfl⟩
  | take id =>
    unfold step take
    dsimp only
    split <;> exact Or.inl ⟨rfl, Or.inl rfl⟩
  | _ => exact Or.inl ⟨rfl, Or.inl rfl⟩

/-- Nobody comes back to a session. -/
theorem isHeld_step (e : Event) (hs : (r.sessions.get? id).isSome = true)
    (h : (r.step e).sessions.isHeld id = true) : r.sessions.isHeld id = true := by
  obtain ⟨s, hs⟩ := Option.isSome_iff_exists.mp hs
  obtain ⟨s', _, _, hs', _, _, hmoved⟩ := becomes_step e hs
  unfold Sessions.isHeld at h ⊢
  rw [hs'] at h
  rw [hs]
  exact hmoved.held h

theorem filter_filter_of_imp {p q : Nat → Bool} {ids : List Nat}
    (h : ∀ id ∈ ids, p id = true → q id = true) : (ids.filter q).filter p = ids.filter p := by
  rw [List.filter_filter]
  refine List.filter_congr fun id hid => ?_
  cases hp : p id with
  | true => rw [h id hid hp, Bool.and_true]
  | false => rfl

/-! ## At all times -/

/-- What holds of the sessions and the registry at all times. -/
structure Kept (r : Roll) : Prop where
  known : ∀ id ∈ r.registered, (r.sessions.get? id).isSome = true
  entries_sublist : r.sessions.entries.Sublist r.registered
  entries_held : r.sessions.entries.filter r.sessions.isHeld =
    r.registered.filter r.sessions.isHeld
  queue_le : ∀ id s, r.sessions.get? id = some s → s.queue.length ≤ outboundQueueLimit
  deaf : ∀ id s, r.sessions.get? id = some s → s.listening = false → s.queue = []
  history : ∀ id s, r.sessions.get? id = some s → s.listening = true →
    r.taken id ++ s.queue = r.accepted id
  front : ∀ id, r.taken id <+: r.accepted id
  unborn : ∀ id, r.sessions.get? id = none → r.accepted id = [] ∧ r.taken id = []

theorem kept_start : Kept {} :=
  ⟨nofun, List.Sublist.refl _, rfl, nofun, nofun, nofun, fun _ => List.prefix_refl _,
    fun _ _ => ⟨rfl, rfl⟩⟩

/-- The entries that are held are the registered sessions that are held. -/
theorem Kept.entries_held_step (hr : Kept r) (e : Event) :
    (∀ id ∈ (r.step e).registered, ((r.step e).sessions.get? id).isSome = true) ∧
    (r.step e).sessions.entries.Sublist (r.step e).registered ∧
    (r.step e).sessions.entries.filter (r.step e).sessions.isHeld =
      (r.step e).registered.filter (r.step e).sessions.isHeld := by
  have hstays : ∀ id, (r.sessions.get? id).isSome = true →
      ((r.step e).sessions.get? id).isSome = true := by
    intro id hs
    obtain ⟨s, hs⟩ := Option.isSome_iff_exists.mp hs
    obtain ⟨s', _, _, hs', _⟩ := becomes_step e hs
    rw [hs']
    rfl
  rcases entries_step r e with ⟨hregistered, hentries⟩ | ⟨id, hheld, hregistered, hsessions⟩
  · have himp : ∀ id ∈ r.registered, (r.step e).sessions.isHeld id = true →
        r.sessions.isHeld id = true := fun id hid => isHeld_step e (hr.known id hid)
    have hold : r.sessions.entries.filter (r.step e).sessions.isHeld =
        r.registered.filter (r.step e).sessions.isHeld := by
      rw [← filter_filter_of_imp himp, ← hr.entries_held, filter_filter_of_imp]
      exact fun id hid => himp id (hr.entries_sublist.subset hid)
    have hprune : r.sessions.prune.entries.filter (r.step e).sessions.isHeld =
        r.registered.filter (r.step e).sessions.isHeld := by
      rw [← hold]
      exact filter_filter_of_imp fun id hid => himp id (hr.entries_sublist.subset hid)
    rw [hregistered]
    refine ⟨fun id hid => hstays id (hr.known id hid), ?_, ?_⟩
    · rcases hentries with h | h
      · rw [h]
        exact hr.entries_sublist
      · rw [h]
        exact List.filter_sublist.trans hr.entries_sublist
    · rcases hentries with h | h
      · rw [h]
        exact hold
      · rw [h]
        exact hprune
  · have hsame : (r.step e).sessions.isHeld = r.sessions.isHeld := by
      rw [hsessions]
      rfl
    have hentries : (r.step e).sessions.entries = r.sessions.entries ++ [id] := by
      rw [hsessions]
      rfl
    rw [hregistered, hentries, hsame]
    refine ⟨?_, hr.entries_sublist.append (List.Sublist.refl _), ?_⟩
    · intro j hj
      rcases List.mem_append.mp hj with hold | hnew
      · exact hstays j (hr.known j hold)
      · rw [List.mem_singleton.mp hnew]
        refine hstays id ?_
        unfold Sessions.isHeld at hheld
        cases hs : r.sessions.get? id with
        | none =>
          rw [hs] at hheld
          cases hheld
        | some s => rfl
    · rw [List.filter_append, List.filter_append, hr.entries_held]

/-- A session that is there after an event has come with it, or has moved by it. -/
theorem Kept.come_or_moved (hr : Kept r) (e : Event) {s' : Session}
    (hs' : (r.step e).sessions.get? id = some s') :
    (s'.queue = [] ∧ (r.step e).accepted id = [] ∧ (r.step e).taken id = []) ∨
      ∃ s, r.sessions.get? id = some s ∧ Becomes r (r.step e) id s s' := by
  cases hs : r.sessions.get? id with
  | none =>
    obtain ⟨haccepted, htaken, hqueue⟩ := unborn_step e hs
    obtain ⟨hnone, hnone'⟩ := hr.unborn id hs
    exact Or.inl ⟨hqueue s' hs', haccepted.trans hnone, htaken.trans hnone'⟩
  | some s =>
    obtain ⟨s'', accepted, taken, hs'', hbecomes⟩ := becomes_step e hs
    cases hs'.symm.trans hs''
    exact Or.inr ⟨s, rfl, accepted, taken, hs'', hbecomes⟩

/-- What a session's task has taken stays the beginning of what the session has accepted. -/
theorem Kept.front_step (hr : Kept r) (e : Event) (id : Nat) :
    (r.step e).taken id <+: (r.step e).accepted id := by
  cases hs : r.sessions.get? id with
  | none =>
    obtain ⟨haccepted, htaken, _⟩ := unborn_step e hs
    rw [haccepted, htaken]
    exact hr.front id
  | some s =>
    obtain ⟨s', accepted, taken, _, haccepted, htaken, hmoved⟩ := becomes_step e hs
    rw [haccepted, htaken]
    refine List.IsPrefix.trans ?_ (List.prefix_append _ _)
    cases hlist : s.listening with
    | true =>
      rw [← hr.history id s hs hlist, List.prefix_append_right_inj]
      exact hmoved.front
    | false =>
      have hnone : taken = [] := List.prefix_nil.mp (hr.deaf id s hs hlist ▸ hmoved.front)
      rw [hnone, List.append_nil]
      exact hr.front id

theorem Kept.step (hr : Kept r) (e : Event) : Kept (r.step e) := by
  obtain ⟨hknown, hsublist, hheld⟩ := hr.entries_held_step e
  refine ⟨hknown, hsublist, hheld, ?_, ?_, ?_, hr.front_step e, ?_⟩
  · intro id s' hs'
    rcases hr.come_or_moved e hs' with ⟨hqueue, _⟩ | ⟨s, hs, _, _, _, _, _, hmoved⟩
    · rw [hqueue]
      exact Nat.zero_le _
    · exact hmoved.length (hr.queue_le id s hs)
  · intro id s' hs' hdeaf
    rcases hr.come_or_moved e hs' with ⟨hqueue, _⟩ | ⟨s, hs, _, _, _, _, _, hmoved⟩
    · exact hqueue
    · exact hmoved.deaf (hr.deaf id s hs) hdeaf
  · intro id s' hs' hlist
    rcases hr.come_or_moved e hs' with ⟨hqueue, haccepted, htaken⟩ |
      ⟨s, hs, _, _, _, haccepted, htaken, hmoved⟩
    · rw [hqueue, haccepted, htaken]
      rfl
    · obtain ⟨hbefore, hqueue⟩ := hmoved.listening hlist
      rw [haccepted, htaken, List.append_assoc, hqueue, ← List.append_assoc,
        hr.history id s hs hbefore]
  · intro id hs'
    cases hs : r.sessions.get? id with
    | none =>
      obtain ⟨haccepted, htaken, _⟩ := unborn_step e hs
      obtain ⟨hnone, hnone'⟩ := hr.unborn id hs
      exact ⟨haccepted.trans hnone, htaken.trans hnone'⟩
    | some s =>
      obtain ⟨s', _, _, h, _⟩ := becomes_step e hs
      exact absurd (hs'.symm.trans h) nofun

theorem Kept.run (hr : Kept r) (events : List Event) : Kept (r.run events) := by
  induction events generalizing r with
  | nil => exact hr
  | cons e events ih => exact ih (hr.step e)

/-- Whoever has left the accepting state accepts nothing any more. -/
theorem accepted_run_of_left (hs : r.sessions.get? id = some s) (hleft : s.state ≠ .accepting)
    (events : List Event) : (r.run events).accepted id = r.accepted id := by
  induction events generalizing r s with
  | nil => rfl
  | cons e events ih =>
    obtain ⟨s', accepted, _, hs', haccepted, _, hmoved⟩ := becomes_step e hs
    obtain ⟨hleft', rfl⟩ := hmoved.shut hleft
    rw [List.append_nil] at haccepted
    exact (ih hs' hleft').trans haccepted

/-! ## Broadcasts -/

/-- Who accepts a text that is sent. -/
theorem send_accepts (ss : Sessions) (id : Nat) (text : String) :
    (ss.send id text).2 = (ss.get? id).any fun s =>
      s.state = .accepting && s.listening && s.queue.length < outboundQueueLimit := by
  cases hs : ss.get? id with
  | none =>
    unfold Sessions.send
    rw [hs]
    rfl
  | some s =>
    rw [Sessions.send_of_get? text hs, Option.any_some]
    rcases s.send_cases text with ⟨hstate, hlist, hroom, h⟩ | ⟨hshut, h⟩ | ⟨_, hfull, h⟩
    · rw [h]
      simp [hstate, hlist, hroom]
    · rw [h]
      rcases hshut with hstate | hdeaf
      · simp [hstate]
      · simp [hdeaf]
    · rw [h]
      simp [Nat.not_lt.mpr hfull]

/-- The sessions that a broadcast is sent to: those registered and still held, in their order. -/
theorem Kept.prune_entries (hr : Kept r) :
    r.sessions.prune.entries = r.registered.filter r.sessions.isHeld :=
  hr.entries_held

/-- What a broadcast makes of a session. -/
theorem Kept.get?_broadcast (hr : Kept r) (honce : r.registered.Nodup) (text : String)
    (hs : r.sessions.get? id = some s) :
    (r.sessions.broadcastText text).1.get? id = some (
      if id ∈ r.registered ∧ s.held = true ∧ s.state = .accepting ∧ s.listening = true then
        if s.queue.length < outboundQueueLimit then { s with queue := s.queue ++ [text] }
        else { s with state := .closing }
      else s) := by
  have hget : (r.sessions.broadcastText text).1.get? id =
      some (s.sendAll (List.replicate (r.sessions.prune.entries.count id) text)).1 := by
    show (Sessions.sendAll text r.sessions.prune r.sessions.prune.entries).1.get? id = _
    rw [Sessions.get?_sendAll]
    exact congrArg _ hs
  have hheld : r.sessions.isHeld id = s.held := by
    unfold Sessions.isHeld
    rw [hs]
    rfl
  rw [hget, hr.prune_entries]
  congr 1
  by_cases hmem : id ∈ r.registered.filter r.sessions.isHeld
  · obtain ⟨hregistered, hs'⟩ := List.mem_filter.mp hmem
    rw [hheld] at hs'
    rw [List.count_eq_one_of_mem (honce.filter _) hmem]
    show (s.send text).1 = _
    rcases s.send_cases text with ⟨hstate, hlist, hroom, h⟩ | ⟨hshut, h⟩ | ⟨hstate, hfull, h⟩
    · rw [h, if_pos ⟨hregistered, hs', hstate, hlist⟩, if_pos hroom]
    · rw [h, if_neg]
      rintro ⟨_, _, hstate, hlist⟩
      rcases hshut with hne | hdeaf
      · exact hne hstate
      · exact absurd (hlist.symm.trans hdeaf) nofun
    · have hlist : s.listening = true := by
        cases hlist : s.listening with
        | true => rfl
        | false =>
          rw [hr.deaf id s hs hlist] at hfull
          exact absurd hfull (by decide)
      rw [h, if_pos ⟨hregistered, hs', hstate, hlist⟩, if_neg (Nat.not_lt.mpr hfull)]
  · rw [List.count_eq_zero.mpr hmem, if_neg]
    · rfl
    · rintro ⟨hregistered, hs', _⟩
      exact hmem (List.mem_filter.mpr ⟨hregistered, hheld.trans hs'⟩)

/-- How many sessions a broadcast says that it has reached. -/
theorem Kept.broadcast_count (hr : Kept r) (honce : r.registered.Nodup) (text : String) :
    (r.sessions.broadcastText text).2 =
      (r.registered.filter fun id => (r.sessions.get? id).any fun s =>
        s.held && s.state = .accepting && s.listening &&
          s.queue.length < outboundQueueLimit).length := by
  have hnodup : r.sessions.prune.entries.Nodup := hr.prune_entries ▸ honce.filter _
  show (Sessions.sendAll text r.sessions.prune r.sessions.prune.entries).2 = _
  rw [Sessions.sendAll_count, Sessions.takers_of_nodup text hnodup, hr.prune_entries,
    List.filter_filter]
  refine congrArg List.length (List.filter_congr fun id _ => ?_)
  rw [send_accepts]
  show ((r.sessions.get? id).any _ && (r.sessions.get? id).any _) = _
  cases r.sessions.get? id with
  | none => rfl
  | some s =>
    rw [Option.any_some, Option.any_some, Option.any_some, Bool.and_comm, Bool.and_assoc,
      Bool.and_assoc, Bool.and_assoc]

/-- A broadcast goes once to the end of the queue of every registered session that is held, accepts,
is listened to and has fewer than 1024 texts waiting; such a session with a full queue starts to
close, and no other session changes. The broadcast gives the number of those that got the text, and
the registry is then all sessions ever registered that are still held, in their order. At all times
no more than 1024 texts wait in a queue, what a session has given to its task, with what waits while
it is listened to, is what it has accepted, and one that has stopped accepting never accepts
again. -/
theorem broadcast_reaches_accepting (events : List Event) (text : String)
    (honce : (run {} events).registered.Nodup) :
    let r := run {} events
    let out := r.sessions.broadcastText text
    (∀ id s, r.sessions.get? id = some s → out.1.get? id = some (
      if id ∈ r.registered ∧ s.held = true ∧ s.state = .accepting ∧ s.listening = true then
        if s.queue.length < 1024 then { s with queue := s.queue ++ [text] }
        else { s with state := .closing }
      else s)) ∧
    (∀ id, r.sessions.get? id = none → out.1.get? id = none) ∧
    out.2 = (r.registered.filter fun id => (r.sessions.get? id).any fun s =>
      s.held && s.state = .accepting && s.listening && s.queue.length < 1024).length ∧
    out.1.entries = r.registered.filter r.sessions.isHeld ∧
    (∀ id s, r.sessions.get? id = some s → s.queue.length ≤ 1024 ∧
      r.taken id <+: r.accepted id ∧ (s.listening = true → r.taken id ++ s.queue = r.accepted id) ∧
      (s.state ≠ .accepting → ∀ more, (r.run more).accepted id = r.accepted id)) := by
  intro r out
  have hr : Kept r := kept_start.run events
  refine ⟨fun id s hs => hr.get?_broadcast honce text hs, ?_, hr.broadcast_count honce text,
    (Sessions.sendAll_entries _ _ _).trans hr.prune_entries, ?_⟩
  · intro id hs
    have hprune : r.sessions.prune.get? id = none := hs
    show (Sessions.sendAll text r.sessions.prune r.sessions.prune.entries).1.get? id = none
    rw [Sessions.get?_sendAll, hprune]
    rfl
  · intro id s hs
    exact ⟨hr.queue_le id s hs, hr.front id, hr.history id s hs,
      fun hleft more => accepted_run_of_left hs hleft more⟩

/-- Four sessions are registered: one is dropped, one shuts down, one has lost its listener. -/
def fourSessions : List Event := [
  .create ⟨"operator", .control⟩, .create ⟨"guest", .guest⟩, .create ⟨"operator", .control⟩,
  .create ⟨"admin", .admin⟩, .register 2, .register 0, .register 1, .register 3,
  .send 0 "first", .broadcast "second", .take 0, .drop 1, .shut 2 false, .hangUp 3]

theorem fourSessions_reached :
    let r := run {} fourSessions
    let out := r.sessions.broadcastText "third"
    r.registered.Nodup ∧ r.registered = [2, 0, 1, 3] ∧ out.2 = 1 ∧ out.1.entries = [2, 0, 3] ∧
      out.1.get? 0 = some { owner := ⟨"operator", .control⟩, queue := ["second", "third"] } ∧
      r.taken 0 ++ ["second"] = r.accepted 0 := by
  intro r out
  have honce : r.registered.Nodup := by decide
  obtain ⟨hget, _, hcount, hentries, htimes⟩ :=
    broadcast_reaches_accepting fourSessions "third" honce
  have hfirst : r.sessions.get? 0 =
      some { owner := ⟨"operator", .control⟩, queue := ["second"] } := by decide
  exact ⟨honce, by decide, hcount.trans (by decide), hentries.trans (by decide),
    hget 0 _ hfirst, (htimes 0 _ hfirst).2.2.1 rfl⟩

end Roll

end DeviceGateway.Channel
