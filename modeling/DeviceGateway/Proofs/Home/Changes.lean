import DeviceGateway.Proofs.Home.Reports

/-
  The announcements that a session hears are the history of the devices. Before its registration a
  session has none (`Unheard`); from there on, while it is there and accepts what is sent, each act
  adds to what it has received or has waiting the announcement of the change that the act makes
  (`Told.step`). So the announcements are the changes, in their order, and a client that applies
  what it reads in them to the devices as they were has the devices as they are
  (`changes_are_announced`).
-/

open DeviceGateway.Channel

namespace DeviceGateway.Home

/-- The home after acts in turn. -/
def performAll (acts : List Act) (h : Home) : Home := acts.foldl (fun h a => a.perform h) h

variable {a : Act} {h : Home} {id : Nat} {s : Session}

/-- A home watched from one session: what the session has received, and the changes made. -/
structure Watch where
  home : Home
  received : List String := []
  changes : List (String × Json) := []

namespace Watch

def step (id : Nat) (w : Watch) (a : Act) : Watch where
  home := a.perform w.home
  received := w.received ++ match w.home.sessions.get? id with
    | some s => a.taken id s
    | none => []
  changes := w.changes ++ (a.change? w.home).toList

def run (id : Nat) (w : Watch) (acts : List Act) : Watch := acts.foldl (step id) w

end Watch

/-- Is every text that acts in turn send to a session accepted by it? -/
def AllAccepted (id : Nat) : Home → List Act → Prop
  | _, [] => True
  | h, a :: acts =>
    (∀ s, h.sessions.get? id = some s → (s.sendAll (a.offers id h)).2 = a.offers id h) ∧
      AllAccepted id (a.perform h) acts

/-- A session that has never been registered has no announcement waiting. -/
structure Unheard (id : Nat) (h : Home) : Prop where
  unregistered : h.sessions.entries.count id = 0
  silent : ∀ s, h.sessions.get? id = some s → announced s.queue = []

theorem Unheard.perform (hu : Unheard id h) (ha : a ≠ .register id) :
    Unheard id (a.perform h) := by
  have hprune : h.sessions.prune.entries.count id = 0 := by
    rw [count_prune, hu.unregistered, ite_self]
  refine ⟨?_, ?_⟩
  · rcases count_perform (h := h) ha with hcount | hcount
    · rw [hcount, hu.unregistered]
    · rw [hcount, hprune]
  · intro s' hs'
    cases hs : h.sessions.get? id with
    | none =>
      rw [queue_of_new a hs hs']
      rfl
    | some s =>
      have hoffers : announced (a.offers id h) = [] := by
        rw [announced_offers, hprune]
        simp
      have hsent : announced (s.sendAll (a.offers id h)).1.queue = [] := by
        rw [Session.sendAll_queue, announced_append, hu.silent s hs,
          announced_of_sublist (Session.sendAll_sublist s _) hoffers]
        rfl
      rw [get?_perform a hs] at hs'
      cases hs'
      exact announced_of_sublist (queue_touched a _) hsent

/-- What ties the announcements to the changes: while the session is there, it is registered once,
and has received or has waiting what was announced. The changes lead from the devices as they were
to the devices as they are, and so do their reports. -/
structure Told (id : Nat) (base : Fields) (w : Watch) : Prop where
  devices_eq : w.home.devices = w.changes.foldl store base
  sorted : w.home.devices.Sorted
  listing_eq : listing w.home.devices = (w.changes.map report).foldl enter (listing base)
  exists_session : ∃ s, w.home.sessions.get? id = some s ∧ (s.isPresent = true →
    w.home.sessions.entries.count id = 1 ∧
      announced (w.received ++ s.queue) = w.changes.map announce)

theorem Told.step {base : Fields} {w : Watch} (hw : Told id base w) (ha : a ≠ .register id)
    (hall : ∀ s, w.home.sessions.get? id = some s →
      (s.sendAll (a.offers id w.home)).2 = a.offers id w.home) :
    Told id base (w.step id a) := by
  obtain ⟨s, hs, hheard⟩ := hw.exists_session
  refine ⟨?_, (names_perform a hw.sorted).1, ?_, _, get?_perform a hs, ?_⟩
  · show (a.perform w.home).devices = (w.changes ++ _).foldl store base
    rw [devices_perform, hw.devices_eq, List.foldl_append]
  · show listing (a.perform w.home).devices = ((w.changes ++ _).map report).foldl enter _
    rw [listing_perform a hw.sorted, hw.listing_eq, List.map_append, List.foldl_append]
  · intro hpresent'
    obtain ⟨hpresent, hqueue⟩ := heard_perform hs (get?_perform a hs) hpresent' (hall s hs)
    obtain ⟨hcount, htexts⟩ := hheard hpresent
    have hprune : w.home.sessions.prune.entries.count id = 1 := by
      rw [count_prune, isHeld_of_isPresent hs hpresent, if_pos rfl, hcount]
    refine ⟨?_, ?_⟩
    · rcases count_perform (h := w.home) ha with heq | heq
      · exact heq.trans hcount
      · exact heq.trans hprune
    · have hreceived : (w.step id a).received = w.received ++ a.taken id s := by
        simp only [Watch.step, hs]
      have hoffers : announced (a.offers id w.home) =
          (a.change? w.home).toList.map announce := by
        rw [announced_offers, hprune]
        cases a.change? w.home <;> rfl
      show announced _ = (w.changes ++ (a.change? w.home).toList).map announce
      rw [hreceived, List.append_assoc, hqueue, ← List.append_assoc, announced_append, htexts,
        hoffers, List.map_append]

theorem Unheard.run {acts : List Act} (hu : Unheard id h) (hacts : .register id ∉ acts) :
    Unheard id (performAll acts h) := by
  induction acts generalizing h with
  | nil => exact hu
  | cons a acts ih =>
    obtain ⟨ha, hrest⟩ := List.ne_and_not_mem_of_not_mem_cons hacts
    exact ih (hu.perform ha.symm) hrest

theorem Told.run {base : Fields} {w : Watch} {acts : List Act} (hw : Told id base w)
    (hacts : .register id ∉ acts) (hall : AllAccepted id w.home acts) :
    Told id base (w.run id acts) := by
  induction acts generalizing w with
  | nil => exact hw
  | cons a acts ih =>
    obtain ⟨ha, hrest⟩ := List.ne_and_not_mem_of_not_mem_cons hacts
    exact ih (hw.step ha.symm hall.1) hrest hall.2

/-- The registration begins the story. -/
theorem Unheard.register (hu : Unheard id h) (hs : h.sessions.get? id = some s)
    (hsorted : h.devices.Sorted) :
    Told id h.devices { home := (Act.register id).perform h } := by
  refine ⟨rfl, hsorted, rfl, s, hs, fun _ => ⟨?_, hu.silent s hs⟩⟩
  show (h.sessions.entries ++ [id]).count id = 1
  rw [List.count_append, hu.unregistered, List.count_singleton_self]

/-- The home in the beginning. -/
def start (pairs : List (String × Json)) : Home := { devices := Fields.ofLatest pairs }

/-- Who switches the lamp. -/
def operator : Principal := { name := "operator", level := .control }

end DeviceGateway.Home
