import DeviceGateway.Proofs.Channel.Step
import DeviceGateway.Proofs.Home.Asks

/-
  Sessions keep their owners and their places. Whatever is sent to sessions, asked of the home or
  done by a session's task, no session comes to be or to the registry by it, and none changes its
  owner (`Task.turn_tended`): a session acts for whom it was accepted for.
-/

open DeviceGateway.Stream (Pipe)

namespace DeviceGateway.Channel

theorem Session.send_owner (s : Session) (text : String) : (s.send text).1.owner = s.owner := by
  rcases Session.send_cases s text with ⟨_, _, _, h⟩ | ⟨_, h⟩ | ⟨_, _, h⟩ <;> rw [h]

theorem Session.sendAll_owner (s : Session) (texts : List String) :
    (s.sendAll texts).1.owner = s.owner := by
  induction texts generalizing s with
  | nil => rfl
  | cons text texts ih => exact (ih (s.send text).1).trans (s.send_owner text)

namespace Sessions

/-- Was every session there before, with the same owner? -/
def OwnersKept (ss ss' : Sessions) : Prop :=
  ∀ id s', ss'.get? id = some s' → ∃ s, ss.get? id = some s ∧ s'.owner = s.owner

variable {ss ss' ss'' : Sessions}

/-- The sessions when they have only been tended: no session has come or changed its owner, and
none has been registered. -/
structure Tended (ss ss' : Sessions) : Prop where
  owners : OwnersKept ss ss'
  size : ss'.all.length = ss.all.length
  entries : ss'.entries.Sublist ss.entries

variable {ss ss' ss'' : Sessions}

theorem OwnersKept.refl (ss : Sessions) : OwnersKept ss ss := fun _ s h => ⟨s, h, rfl⟩

theorem OwnersKept.trans (h : OwnersKept ss ss') (h' : OwnersKept ss' ss'') :
    OwnersKept ss ss'' := by
  intro id s'' hs''
  obtain ⟨s', hs', howner'⟩ := h' id s'' hs''
  obtain ⟨s, hs, howner⟩ := h id s' hs'
  exact ⟨s, hs, howner'.trans howner⟩

theorem Tended.refl (ss : Sessions) : Tended ss ss :=
  ⟨OwnersKept.refl ss, rfl, List.Sublist.refl _⟩

theorem Tended.trans (h : Tended ss ss') (h' : Tended ss' ss'') : Tended ss ss'' :=
  ⟨h.owners.trans h'.owners, h'.size.trans h.size, h'.entries.trans h.entries⟩

theorem tended_modify (ss : Sessions) (id : Nat) {f : Session → Session}
    (hf : ∀ s, ss.get? id = some s → (f s).owner = s.owner) : Tended ss (ss.modify id f) := by
  refine ⟨fun j s' hs' => ?_, List.length_modify .., List.Sublist.refl _⟩
  rw [get?_modify] at hs'
  by_cases hij : id = j
  · subst hij
    rw [if_pos rfl] at hs'
    obtain ⟨s, hs, rfl⟩ := Option.map_eq_some_iff.mp hs'
    exact ⟨s, hs, hf s hs⟩
  · rw [if_neg hij] at hs'
    exact ⟨s', hs', rfl⟩

theorem tended_send (ss : Sessions) (id : Nat) (text : String) : Tended ss (ss.send id text).1 := by
  unfold send
  cases hs : ss.get? id with
  | none => exact Tended.refl ss
  | some s =>
    refine tended_modify ss id fun s' hs' => ?_
    rw [hs] at hs'
    cases hs'
    exact s.send_owner text

theorem tended_sendAll (text : String) (ss : Sessions) (ids : List Nat) :
    Tended ss (sendAll text ss ids).1 := by
  unfold sendAll
  generalize (0 : Nat) = n
  induction ids generalizing ss n with
  | nil => exact Tended.refl ss
  | cons id ids ih =>
    rw [List.foldl_cons]
    exact (tended_send ss id text).trans (ih _ _)

theorem tended_prune (ss : Sessions) : Tended ss ss.prune :=
  ⟨OwnersKept.refl ss, rfl, List.filter_sublist⟩

theorem tended_broadcast (ss : Sessions) (event : Push) : Tended ss (ss.broadcast event).1 :=
  (tended_prune ss).trans (tended_sendAll event.text ss.prune ss.prune.entries)

/-! ## Newcomers -/

/-- The sessions that have come to the registry since. -/
def joined (ss ss' : Sessions) : List Nat := ss'.entries.filter (· ∉ ss.entries)

/-- Is every session still there, with the same owner? -/
def Grown (ss ss' : Sessions) : Prop :=
  ∀ id s, ss.get? id = some s → ∃ s', ss'.get? id = some s' ∧ s'.owner = s.owner

/-- Are the registered sessions different ones, and all of them known? -/
structure Orderly (ss : Sessions) : Prop where
  nodup : ss.entries.Nodup
  known : ∀ id ∈ ss.entries, id < ss.all.length

theorem Tended.joined_nil (h : Tended ss ss') : ss.joined ss' = [] := by
  refine List.filter_eq_nil_iff.mpr fun id hid => ?_
  rw [decide_eq_true_iff]
  exact fun hnew => hnew (h.entries.subset hid)

theorem Tended.grown (h : Tended ss ss') : Grown ss ss' := by
  intro id s hs
  have hlt : id < ss'.all.length := h.size ▸ (List.getElem?_eq_some_iff.mp hs).1
  have hs' : ss'.get? id = some ss'.all[id] := List.getElem?_eq_getElem hlt
  obtain ⟨_, hold, howner⟩ := h.owners id _ hs'
  rw [hs] at hold
  cases hold
  exact ⟨_, hs', howner⟩

theorem Tended.orderly (h : Tended ss ss') (hss : ss.Orderly) : ss'.Orderly :=
  ⟨hss.nodup.sublist h.entries, fun id hid => h.size ▸ hss.known id (h.entries.subset hid)⟩

/-- A new session and its place in the registry. -/
def enrol (ss : Sessions) (owner : Principal) : Sessions :=
  (ss.create owner).1.register ss.all.length

theorem enrol_grown (ss : Sessions) (owner : Principal) : Grown ss (ss.enrol owner) := by
  intro id s hs
  have hlt : id < ss.all.length := (List.getElem?_eq_some_iff.mp hs).1
  exact ⟨s, (List.getElem?_append_left hlt).trans hs, rfl⟩

/-- A new session has a number of its own, so it has one place in the registry. -/
theorem Orderly.joined_enrol (hss : ss.Orderly) (owner : Principal) :
    ss.joined (ss.enrol owner) = [ss.all.length] := by
  have hold : ss.entries.filter (· ∉ ss.entries) = [] := (Tended.refl ss).joined_nil
  have hnew : ss.all.length ∉ ss.entries := fun h => Nat.lt_irrefl _ (hss.known _ h)
  show (ss.entries ++ [ss.all.length]).filter (· ∉ ss.entries) = _
  rw [List.filter_append, hold, List.nil_append]
  exact List.filter_cons_of_pos (decide_eq_true hnew)

theorem Orderly.enrol (hss : ss.Orderly) (owner : Principal) : (ss.enrol owner).Orderly := by
  have hnew : ss.all.length ∉ ss.entries := fun h => Nat.lt_irrefl _ (hss.known _ h)
  have hsize : (ss.enrol owner).all.length = ss.all.length + 1 := List.length_append
  refine ⟨?_, fun id hid => ?_⟩
  · refine List.nodup_append.mpr ⟨hss.nodup, List.pairwise_singleton _ _, ?_⟩
    intro id hid id' hid' heq
    rw [heq, List.mem_singleton.mp hid'] at hid
    exact hnew hid
  · rw [hsize]
    rcases List.mem_append.mp hid with h | h
    · exact Nat.lt_succ_of_lt (hss.known id h)
    · rw [List.mem_singleton.mp h]
      exact Nat.lt_succ_self _

end Sessions

end DeviceGateway.Channel

namespace DeviceGateway.Home

open Channel

/-- A request only tends the sessions. -/
theorem Ask.tended (q : Ask) (h : Home) :
    Sessions.Tended h.sessions (q.outcome h).1.sessions := by
  rcases q.answers h with ⟨_, _, hhome⟩ | ⟨name, state, _, _, _, hhome⟩
  · rw [hhome]
    exact Sessions.Tended.refl _
  · rw [hhome]
    exact Sessions.tended_broadcast _ _

/-- A request for a resource makes of the home what its answer comes with. -/
theorem outcome_resource (h : Home) (who : Principal) (r : ResourceRequest) :
    ((Ask.resource who r).outcome h).1 = (h.serve who r).1 := by
  simp only [Ask.outcome]
  split
  · next heq => rw [heq]
  · next heq => rw [heq]

theorem serve_tended (h : Home) (who : Principal) (r : ResourceRequest) :
    Sessions.Tended h.sessions (h.serve who r).1.sessions :=
  outcome_resource h who r ▸ (Ask.resource who r).tended h

end DeviceGateway.Home

namespace DeviceGateway.Channel.Task

variable {m : Moment} {h : Home} {p : Pipe} {t : Task} {s : Session} {taken : Taken}

theorem handle_tended (hcommands : m.commands = Home.commands) (owner : Principal)
    (message : Message) :
    Sessions.Tended h.sessions (t.handle m h p owner message).home.sessions := by
  unfold handle
  split
  · next text =>
    split
    · exact Sessions.Tended.refl _
    · next request _ =>
      rw [hcommands]
      exact (Home.Ask.command { owner, request, session := t.session }).tended h
  all_goals exact Sessions.Tended.refl _

theorem step_tended (hcommands : m.commands = Home.commands)
    (hstep : t.step m h p = some taken) :
    Sessions.Tended h.sessions taken.home.sessions := by
  obtain ⟨s, hs⟩ := exists_session_of_step hstep
  have hpopped : ∀ rest, Sessions.Tended h.sessions (t.popped h s rest).sessions := by
    refine fun rest => Sessions.tended_modify _ _ fun s' hs' => ?_
    rw [hs] at hs'
    cases hs'
    rfl
  cases step_took hs hstep with
  | dropped => exact hpopped _
  | wrote => exact hpopped _
  | handled => exact handle_tended hcommands s.owner _
  | answered => exact Sessions.tended_send _ _ _
  | retired =>
    unfold retire
    exact Sessions.tended_modify _ _ fun _ _ => rfl
  | finished => exact Sessions.tended_modify _ _ fun _ _ => rfl
  | _ => exact Sessions.Tended.refl _

theorem step_session (hstep : t.step m h p = some taken) : taken.task.session = t.session := by
  obtain ⟨s, hs⟩ := exists_session_of_step hstep
  exact (step_took hs hstep).session_eq

/-- What every step does to the home and the task, a turn does as well. -/
theorem turn_steps {R : Home × Task → Home × Task → Prop}
    (hone : ∀ {h p t} {taken : Taken}, t.step m h p = some taken →
      R (h, t) (taken.home, taken.task))
    (htrans : ∀ {a b c}, R a b → R b c → R a c) {fuel : Nat}
    (hturn : t.turn fuel m h p = some taken) : R (h, t) (taken.home, taken.task) := by
  induction fuel generalizing t h p taken with
  | zero => cases hturn
  | succ n ih =>
    unfold turn at hturn
    split at hturn
    · cases hturn
    · next first hstep =>
      have hfirst := hone hstep
      split at hturn
      · cases hnext : first.task.turn n m first.home first.pipe with
        | none =>
          rw [hnext] at hturn
          cases hturn
          exact hfirst
        | some last =>
          rw [hnext] at hturn
          cases hturn
          exact htrans hfirst (ih hnext)
      · cases hturn
        exact hfirst

theorem turn_tended (hcommands : m.commands = Home.commands) {fuel : Nat}
    (hturn : t.turn fuel m h p = some taken) :
    Sessions.Tended h.sessions taken.home.sessions :=
  turn_steps (R := fun a b => Sessions.Tended a.1.sessions b.1.sessions)
    (step_tended hcommands) Sessions.Tended.trans hturn

/-- A task stays with its session. -/
theorem turn_session {fuel : Nat} (hturn : t.turn fuel m h p = some taken) :
    taken.task.session = t.session :=
  turn_steps (R := fun a b => b.2.session = a.2.session) step_session
    (fun hab hbc => hbc.trans hab) hturn

end DeviceGateway.Channel.Task
