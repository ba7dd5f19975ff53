import DeviceGateway.Proofs.Home.Announce
import DeviceGateway.Proofs.Home.Asks

/-
  What happens to a home with its sessions. Sessions come, register, receive and go while requests
  are made, each act at one stroke. A session gets of an act what the act offers to it
  (`get?_perform`), and of these texts a change's announcement comes as often as the session is
  registered and held (`announced_offers`).
-/

open DeviceGateway.Channel

namespace DeviceGateway.Home

/-- What happens to one session. -/
inductive Touch
  /-- It takes the text that waits longest. -/
  | receive
  /-- It moves on in its life. -/
  | mark (state : SessionState)
  /-- Nobody listens to it any more, and what waits is lost. -/
  | hangUp
  /-- Nobody holds it any more. -/
  | drop

/-- The session afterwards. -/
def Touch.apply : Touch → Session → Session
  | receive, s => match s.take? with
    | some (_, s') => s'
    | none => s
  | mark state, s => { s with state }
  | hangUp, s => { s with listening := false, queue := [] }
  | drop, s => { s with held := false }

/-- The texts that the session takes. -/
def Touch.taken : Touch → Session → List String
  | receive, s => (s.take?.map (·.1)).toList
  | _, _ => []

/-- Something that happens to a home. -/
inductive Act
  | create (owner : Principal)
  | register (id : Nat)
  | touch (id : Nat) (t : Touch)
  /-- The answer to a request is sent to a session. -/
  | respond (id : Nat) (r : Response)
  | ask (q : Ask)

namespace Act

/-- The home afterwards. -/
def perform : Act → Home → Home
  | create owner, h => { h with sessions := (h.sessions.create owner).1 }
  | register id, h => { h with sessions := h.sessions.register id }
  | touch id t, h => { h with sessions := h.sessions.modify id t.apply }
  | respond id r, h => { h with sessions := (h.sessions.send id r.text).1 }
  | ask q, h => (q.outcome h).1

/-- The change that is made. -/
def change? : Act → Home → Option (String × Json)
  | ask q, h => q.change? h
  | _, _ => none

/-- The texts that are sent to a session: a response that is for it, and a change as many times as
the session is registered. -/
def offers (id : Nat) : Act → Home → List String
  | respond j r, _ => if j = id then [r.text] else []
  | ask q, h => match q.change? h with
    | some (name, state) =>
      List.replicate (h.sessions.prune.entries.count id) (change name state).text
    | none => []
  | _, _ => []

/-- What becomes of a session, apart from what is sent to it. -/
def touched (id : Nat) : Act → Session → Session
  | touch j t, s => if j = id then t.apply s else s
  | _, s => s

/-- The texts that a session receives. -/
def taken (id : Nat) : Act → Session → List String
  | touch j t, s => if j = id then t.taken s else []
  | _, _ => []

end Act

/-- The devices after a change. -/
def store (devices : Fields) (c : String × Json) : Fields := Fields.insert c.1 c.2 devices

variable {a : Act} {h : Home} {id : Nat} {s s' : Session}

/-! ## What an act does -/

/-- The devices are those before, with the change that is made. -/
theorem devices_perform (a : Act) (h : Home) :
    (a.perform h).devices = (a.change? h).toList.foldl store h.devices := by
  cases a with
  | ask q =>
    show (q.outcome h).1.devices = (q.change? h).toList.foldl store h.devices
    rcases q.answers h with ⟨_, hnone, hhome⟩ | ⟨name, state, _, hsome, _, hhome⟩
    · rw [hnone, hhome]
      rfl
    · rw [hsome, hhome]
      rfl
  | _ => rfl

/-- No act adds a device or removes one. -/
theorem names_perform (a : Act) (hsorted : h.devices.Sorted) :
    (a.perform h).devices.Sorted ∧ (a.perform h).devices.map (·.1) = h.devices.map (·.1) := by
  cases a with
  | ask q =>
    show (q.outcome h).1.devices.Sorted ∧ (q.outcome h).1.devices.map (·.1) = h.devices.map (·.1)
    rcases q.answers h with ⟨_, _, hhome⟩ | ⟨name, state, _, _, hget, hhome⟩
    · rw [hhome]
      exact ⟨hsorted, rfl⟩
    · rw [hhome]
      exact ⟨Fields.insert_sorted name state hsorted, Fields.keys_insert state hsorted hget⟩
  | _ => exact ⟨hsorted, rfl⟩

/-- A session becomes what the texts offered to it make of it, and what happens to it. -/
theorem get?_perform (a : Act) (hs : h.sessions.get? id = some s) :
    (a.perform h).sessions.get? id =
      some (a.touched id (s.sendAll (a.offers id h)).1) := by
  cases a with
  | create owner =>
    have hlt : id < h.sessions.all.length := (List.getElem?_eq_some_iff.mp hs).1
    show (h.sessions.all ++ [_])[id]? = some s
    rw [List.getElem?_append_left hlt]
    exact hs
  | register j => exact hs
  | touch j t =>
    show (h.sessions.modify j t.apply).get? id = some (if j = id then t.apply s else s)
    rw [Sessions.get?_modify, hs]
    split <;> rfl
  | respond j r =>
    show (h.sessions.send j r.text).1.get? id = some (s.sendAll (if j = id then [r.text] else [])).1
    rw [Sessions.get?_send, hs]
    split <;> rfl
  | ask q =>
    show (q.outcome h).1.sessions.get? id = some (s.sendAll (Act.offers id (.ask q) h)).1
    rcases q.answers h with ⟨_, hnone, hhome⟩ | ⟨name, state, _, hsome, _, hhome⟩
    · simp only [Act.offers, hnone, hhome]
      exact hs
    · simp only [Act.offers, hsome, hhome, stored]
      rw [Sessions.get?_broadcast, hs]
      rfl

/-- A session that there was not before has no texts waiting. -/
theorem queue_of_new (a : Act) (hs : h.sessions.get? id = none)
    (hs' : (a.perform h).sessions.get? id = some s') : s'.queue = [] := by
  cases a with
  | create owner =>
    have hnew : (h.sessions.all ++ [{ owner : Session }])[id]? = some s' := hs'
    rw [List.getElem?_append_right (List.getElem?_eq_none_iff.mp hs)] at hnew
    have hmem := List.mem_of_getElem? hnew
    rw [List.mem_singleton.mp hmem]
  | register j => exact absurd (hs.symm.trans hs') nofun
  | touch j t =>
    have htouch : (h.sessions.modify j t.apply).get? id = some s' := hs'
    rw [Sessions.get?_modify, hs] at htouch
    split at htouch <;> cases htouch
  | respond j r =>
    have hsend : (h.sessions.send j r.text).1.get? id = some s' := hs'
    rw [Sessions.get?_send, hs] at hsend
    split at hsend <;> cases hsend
  | ask q =>
    have hask : (q.outcome h).1.sessions.get? id = some s' := hs'
    rcases q.answers h with ⟨_, _, hhome⟩ | ⟨name, state, _, _, _, hhome⟩
    · rw [hhome, hs] at hask
      cases hask
    · rw [hhome] at hask
      unfold stored at hask
      rw [Sessions.get?_broadcast, hs] at hask
      cases hask

/-! ## How often a session is registered -/

theorem count_prune (ss : Sessions) (id : Nat) :
    ss.prune.entries.count id = if ss.isHeld id then ss.entries.count id else 0 := by
  unfold Sessions.prune
  cases hheld : ss.isHeld id with
  | true =>
    rw [if_pos rfl]
    exact List.count_filter hheld
  | false =>
    rw [if_neg nofun]
    refine List.count_eq_zero.mpr fun hmem => ?_
    rw [(List.mem_filter.mp hmem).2] at hheld
    cases hheld

theorem isHeld_of_isPresent {ss : Sessions} (hs : ss.get? id = some s)
    (hpresent : s.isPresent = true) : ss.isHeld id = true := by
  unfold Sessions.isHeld
  rw [hs]
  exact (Bool.and_eq_true_iff.mp hpresent).1

/-- Only its registration makes a session registered more often. -/
theorem count_perform (ha : a ≠ .register id) :
    (a.perform h).sessions.entries.count id = h.sessions.entries.count id ∨
      (a.perform h).sessions.entries.count id = h.sessions.prune.entries.count id := by
  cases a with
  | register j =>
    have hj : j ≠ id := fun heq => ha (congrArg Act.register heq)
    refine Or.inl ?_
    show (h.sessions.entries ++ [j]).count id = _
    rw [List.count_append, List.count_singleton, if_neg (by simpa using hj)]
    rfl
  | create owner => exact Or.inl rfl
  | touch j t => exact Or.inl rfl
  | respond j r => exact Or.inl (congrArg (List.count id) (Sessions.send_entries _ _ _))
  | ask q =>
    show (q.outcome h).1.sessions.entries.count id = _ ∨
      (q.outcome h).1.sessions.entries.count id = _
    rcases q.answers h with ⟨_, _, hhome⟩ | ⟨name, state, _, _, _, hhome⟩
    · rw [hhome]
      exact Or.inl rfl
    · rw [hhome]
      exact Or.inr (congrArg (List.count id) (Sessions.broadcast_entries _ _))

/-! ## What a session hears -/

/-- The texts that announce something. -/
def announced (texts : List String) : List String := texts.filter announces

/-- The announcement of a change. -/
def announce (c : String × Json) : String := (change c.1 c.2).text

theorem announced_append (texts more : List String) :
    announced (texts ++ more) = announced texts ++ announced more :=
  List.filter_append texts more

theorem announced_of_sublist {texts more : List String} (h : texts.Sublist more)
    (hmore : announced more = []) : announced texts = [] :=
  List.sublist_nil.mp (hmore ▸ h.filter announces)

/-- Of an act, a session is offered the announcement of the change that is made, as often as it is
registered and held. -/
theorem announced_offers (a : Act) (h : Home) (id : Nat) :
    announced (a.offers id h) = (a.change? h).toList.flatMap fun c =>
      List.replicate (h.sessions.prune.entries.count id) (announce c) := by
  cases a with
  | respond j r =>
    show announced (if j = id then [r.text] else []) = []
    unfold announced
    split
    · rw [List.filter_cons, response_announces]
      rfl
    · rfl
  | ask q =>
    show announced (Act.offers id (.ask q) h) = (q.change? h).toList.flatMap _
    cases hchange : q.change? h with
    | none =>
      simp only [Act.offers, hchange]
      rfl
    | some c =>
      simp only [Act.offers, hchange, Option.toList_some, List.flatMap_singleton]
      exact List.filter_replicate_of_pos (change_announces c.1 c.2)
  | _ => rfl

/-- A session that is there afterwards was there before, and no text is lost. -/
theorem Touch.taken_append (t : Touch) (hpresent : (t.apply s).isPresent = true) :
    s.isPresent = true ∧ t.taken s ++ (t.apply s).queue = s.queue := by
  obtain ⟨owner, state, queue, listening, held⟩ := s
  cases t with
  | receive =>
    cases queue with
    | nil => exact ⟨hpresent, rfl⟩
    | cons text rest => exact ⟨hpresent, rfl⟩
  | mark state => exact ⟨hpresent, rfl⟩
  | hangUp => simp [Touch.apply, Session.isPresent] at hpresent
  | drop => simp [Touch.apply, Session.isPresent] at hpresent

theorem queue_touched (a : Act) (s : Session) : (a.touched id s).queue.Sublist s.queue := by
  cases a with
  | touch j t =>
    show (if j = id then t.apply s else s).queue.Sublist s.queue
    split
    · obtain ⟨owner, state, queue, listening, held⟩ := s
      cases t with
      | receive =>
        cases queue with
        | nil => exact List.Sublist.refl _
        | cons text rest => exact List.sublist_cons_self text rest
      | hangUp => exact List.nil_sublist _
      | _ => exact List.Sublist.refl _
    · exact List.Sublist.refl _
  | _ => exact List.Sublist.refl _

theorem taken_append (a : Act) (hpresent : (a.touched id s).isPresent = true) :
    s.isPresent = true ∧ a.taken id s ++ (a.touched id s).queue = s.queue := by
  cases a with
  | touch j t =>
    by_cases hj : j = id
    · simp only [Act.touched, Act.taken, if_pos hj] at hpresent ⊢
      exact t.taken_append hpresent
    · simp only [Act.touched, Act.taken, if_neg hj] at hpresent ⊢
      exact ⟨hpresent, rfl⟩
  | _ => exact ⟨hpresent, rfl⟩

/-- An act by which a session takes a text sends it none. -/
theorem taken_sendAll (a : Act) (h : Home) (s : Session) :
    a.taken id (s.sendAll (a.offers id h)).1 = a.taken id s := by
  cases a <;> rfl

/-- What a session that accepts all has received and has waiting grows by what it is offered. -/
theorem heard_perform (hs : h.sessions.get? id = some s)
    (hs' : (a.perform h).sessions.get? id = some s') (hpresent : s'.isPresent = true)
    (hall : (s.sendAll (a.offers id h)).2 = a.offers id h) :
    s.isPresent = true ∧ a.taken id s ++ s'.queue = s.queue ++ a.offers id h := by
  rw [get?_perform a hs] at hs'
  cases hs'
  obtain ⟨hpresent', htaken⟩ := taken_append a hpresent
  rw [taken_sendAll, Session.sendAll_queue, hall] at htaken
  rw [Session.sendAll_isPresent] at hpresent'
  exact ⟨hpresent', htaken⟩

end DeviceGateway.Home
