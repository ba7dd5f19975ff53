import DeviceGateway.Proofs.Home.Outlook
import DeviceGateway.Proofs.Json.Equality

/-
  How far the view of a client is right. When all that was sent to it has arrived, the view is what
  its last answer showed with the later changes applied; so it is right about every device that no
  change between the command and its answer is about (`view_follows`).
-/

open DeviceGateway.Channel

namespace DeviceGateway

namespace Home

variable {w : Hall} {o : Outlook} {id : Nat}

/-! ## Devices after changes -/

/-- A device is the same after the same changes, when it was before or when one of them is about
it. -/
theorem get?_of_changes {cs : List (String × Json)} {fs fs' : Fields} {name : String}
    (h : Fields.get? name fs = Fields.get? name fs' ∨ name ∈ cs.map (·.1)) :
    Fields.get? name (cs.foldl store fs) = Fields.get? name (cs.foldl store fs') := by
  induction cs generalizing fs fs' with
  | nil => exact h.resolve_right nofun
  | cons c cs ih =>
    refine ih ?_
    unfold store
    rw [Fields.get?_insert, Fields.get?_insert]
    by_cases hc : c.1 = name
    · rw [if_pos hc, if_pos hc]
      exact Or.inl rfl
    · rw [if_neg hc, if_neg hc]
      refine h.imp_right fun hmem => ?_
      exact (List.mem_cons.mp hmem).resolve_left fun heq => hc heq.symm

/-- Changes about other devices leave a device as it is. -/
theorem get?_of_other_changes {cs : List (String × Json)} (fs : Fields) {name : String}
    (h : name ∉ cs.map (·.1)) : Fields.get? name (cs.foldl store fs) = Fields.get? name fs := by
  induction cs generalizing fs with
  | nil => rfl
  | cons c cs ih =>
    obtain ⟨hne, hrest⟩ := List.ne_and_not_mem_of_not_mem_cons h
    exact (ih _ hrest).trans (Fields.get?_insert_of_ne (Ne.symm hne) _ _)

/-! ## All runs -/

/-- What a client that began with a view makes of the texts that it received. -/
def Outlook.view (read : String → Option Json) (view : Fields) (o : Outlook) : Fields :=
  (o.received.filterMap read).foldl see view

/-- Is a session registered, with nothing in its queue and no answer at hand? -/
structure Joined (id : Nat) (w : Hall) : Prop where
  idle : w.answers id = none
  exists_session : ∃ s, w.home.sessions.get? id = some s ∧ s.queue = []
  registered : 0 < w.home.sessions.entries.count id

/-- A session that was just accepted is. -/
theorem joined_accept (h : Home) (leftover : Bytes) (owner : Principal) :
    Joined (Task.accept h leftover owner).2.session
      { home := (Task.accept h leftover owner).1 } := by
  refine ⟨rfl, ⟨{ owner }, Sessions.get?_create_self h.sessions owner, rfl⟩, ?_⟩
  show 0 < (h.sessions.entries ++ [h.sessions.all.length]).count h.sessions.all.length
  rw [List.count_append, List.count_singleton_self]
  exact Nat.succ_pos _

/-- Is a session there, with no answer at hand, and has its client received all? -/
def drained (id : Nat) (w : Hall) : Bool :=
  (w.answers id).isNone && (w.home.sessions.get? id).any fun s => s.isPresent && s.queue.isEmpty

/-- From a hall that a session has joined, is it sent nothing that it does not accept, has it called
for all devices, and has its client received all in the end and reads all messages right? -/
structure Attends (id : Nat) (w : Hall) (moves : List Move) (read : String → Option Json) :
    Prop where
  joined : Joined id w
  accepts : acceptsAll id w moves = true
  drained : drained id (Outlook.run id { hall := w } moves).hall = true
  called : (Outlook.run id { hall := w } moves).asked.isSome = true ∨
    (Outlook.run id { hall := w } moves).answered.isSome = true
  reads : ∀ j ∈ (Outlook.run id { hall := w } moves).said, read j.text = some j

theorem Joined.follows (hw : Joined id w) (view : Fields) : Follows id view { hall := w } := by
  obtain ⟨s, hs, hqueue⟩ := hw.exists_session
  refine ⟨?_, nofun, s, hs, fun _ => ⟨hw.registered, hqueue, nofun⟩⟩
  show (w.answers id).bind Response.devices? = none
  rw [hw.idle]
  rfl

theorem filterMap_text {read : String → Option Json} {messages : List Json}
    (h : ∀ j ∈ messages, read j.text = some j) :
    (messages.map Json.text).filterMap read = messages := by
  induction messages with
  | nil => rfl
  | cons j messages ih =>
    obtain ⟨hj, hrest⟩ := List.forall_mem_cons.mp h
    rw [List.map_cons, List.filterMap_cons_some hj, ih hrest]

/-- The view of a client is the devices as they were when the command of its last answered call ran,
with the changes made after the answer went into its queue; the devices are these with the changes
made in between, too. So the view is right about every device that no change in between is about or
that was changed again, and is the devices when there was no change in between. -/
theorem view_follows {moves : List Move} {read : String → Option Json}
    (hattends : Attends id w moves read) (view : Fields) :
    let o := Outlook.run id { hall := w } moves
    ∃ c, o.answered = some c ∧
      o.view read view = c.later.foldl store c.shown ∧
      o.hall.home.devices = c.later.foldl store (c.missed.foldl store c.shown) ∧
      (∀ name, name ∉ c.missed.map (·.1) ∨ name ∈ c.later.map (·.1) →
        Fields.get? name (o.view read view) = Fields.get? name o.hall.home.devices) ∧
      (c.missed = [] → o.view read view = o.hall.home.devices) := by
  intro o
  have hfollows : Follows id view o := (hattends.joined.follows view).run hattends.accepts
  obtain ⟨s, hs, hheard⟩ := hfollows.exists_session
  obtain ⟨hidle, hreceived⟩ := Bool.and_eq_true_iff.mp hattends.drained
  obtain ⟨hpresent, hempty⟩ : s.isPresent = true ∧ s.queue = [] := by
    rw [show (Outlook.run id { hall := w } moves).hall.home.sessions.get? id = some s from hs]
      at hreceived
    simpa using hreceived
  obtain ⟨_, htexts, hlast⟩ := hheard hpresent
  -- no call waits, so that one was answered
  have hnone : o.asked = none := by
    have hwaits := hfollows.waits
    rw [show o.hall.answers id = none from Option.isNone_iff_eq_none.mp hidle] at hwaits
    exact Option.map_eq_none_iff.mp hwaits.symm
  obtain ⟨c, hc⟩ : ∃ c, o.answered = some c := by
    refine Option.isSome_iff_exists.mp (hattends.called.resolve_left fun hasked => ?_)
    rw [show (Outlook.run id { hall := w } moves).asked = none from hnone] at hasked
    cases hasked
  obtain ⟨hview, hdevices⟩ := hlast c hc
  have hread : o.received.filterMap read = o.said := by
    rw [hempty, List.append_nil] at htexts
    rw [htexts]
    exact filterMap_text hattends.reads
  have hseen : o.view read view = c.later.foldl store c.shown := by
    unfold Outlook.view
    rw [hread, hview]
  refine ⟨c, hc, hseen, hdevices, ?_, ?_⟩
  · intro name hname
    rw [hseen, hdevices]
    refine get?_of_changes (hname.imp_left fun hnot => ?_)
    exact (get?_of_other_changes c.shown hnot).symm
  · intro hmissed
    rw [hseen, hdevices, hmissed]
    rfl

/-- A home with a lamp that is off, and a session just accepted. -/
def lampHall : Hall := { home := (Task.accept (start [("lamp", .bool false)]) [] operator).1 }

/-- A call for all devices. -/
def devicesCall : String := "\x7b\"msgid\":1,\"msg\":\"getdevices\"\x7d"

/-- How a client reads its messages. -/
def readText (text : String) : Option Json := (Json.parse (utf8 text)).toOption

/-- The lamp is switched on when the answer to a call is in the queue. -/
def promptAnswer : List Move := [
  .dispatch 0 devicesCall,
  .enqueue 0,
  .set operator "lamp" (.bool true),
  .touch 0 .receive,
  .touch 0 .receive]

theorem promptAnswer_attends : Attends 0 lampHall promptAnswer readText where
  joined := joined_accept (start [("lamp", .bool false)]) [] operator
  accepts := by decide +kernel
  drained := by decide +kernel
  called := by decide +kernel
  reads := by decide +kernel

theorem promptAnswer_seen :
    ∃ c, (Outlook.run 0 { hall := lampHall } promptAnswer).answered = some c ∧
      (Outlook.run 0 { hall := lampHall } promptAnswer).view readText [] =
        c.later.foldl store c.shown := by
  obtain ⟨c, hc, hview, _⟩ := view_follows promptAnswer_attends []
  exact ⟨c, hc, hview⟩

/-- The lamp is switched on after the command of a call has run and before the answer goes into the
queue. -/
def lateAnswer : List Move := [
  .dispatch 0 devicesCall,
  .set operator "lamp" (.bool true),
  .enqueue 0,
  .touch 0 .receive,
  .touch 0 .receive]

theorem lateAnswer_attends : Attends 0 lampHall lateAnswer readText where
  joined := joined_accept (start [("lamp", .bool false)]) [] operator
  accepts := by decide +kernel
  drained := by decide +kernel
  called := by decide +kernel
  reads := by decide +kernel

/-- So a view need not be the devices: the client saw the change before the answer that does not
show it. -/
theorem lateAnswer_hides_change :
    ¬ ∀ (id : Nat) (w : Hall) (moves : List Move) (read : String → Option Json),
      Attends id w moves read → ∀ view,
        (Outlook.run id { hall := w } moves).view read view =
          (Outlook.run id { hall := w } moves).hall.home.devices := by
  intro h
  have hview := h 0 lampHall lateAnswer readText lateAnswer_attends []
  revert hview
  decide +kernel

end Home

end DeviceGateway
