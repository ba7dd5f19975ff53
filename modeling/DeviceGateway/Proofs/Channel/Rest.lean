import DeviceGateway.Proofs.Channel.Hearing
import DeviceGateway.Proofs.Channel.Order

/-
  A lone client's task comes to rest. Each of its steps leaves less to read, or as much to read and
  less to do (`step_lessens`), until it waits with nothing to do, or has ended (`comes_to_rest`).
-/

open DeviceGateway.Stream (Pipe)

namespace DeviceGateway.Channel

open Sent

theorem Happening.Lone.tame {commands : CommandTable Home} {a : Happening} (ha : a.Lone commands)
    (hcommands : commands.SendsOnly) : a.Tame := by
  cases a with
  | step m =>
    obtain ⟨_, rfl⟩ := ha
    exact hcommands
  | _ => trivial

namespace Task

/-- Does the task have anything to do for its client, when the queue is empty? -/
def hasWork (t : Task) (p : Pipe) : Bool :=
  t.wire.owes ||
    match t.wire.receiver.message with
    | .ok (_, none) => !p.incoming.isEmpty || p.ended
    | _ => true

variable {m : Moment} {h : Home} {p : Pipe} {t : Task} {s : Session} {owner : Principal}

theorem receive_isSome (hp : p.Reads) (hstop : m.stop = false) (howes : t.wire.owes = false) :
    (t.receive m h p owner).isSome = t.hasWork p := by
  unfold receive hasWork
  rw [howes, Bool.false_or, Pipe.read_of_reads hp]
  split
  · next hmessage => rw [hmessage]; rfl
  · next hmessage => rw [hmessage]; rfl
  · next hmessage =>
    rw [hmessage]
    dsimp only
    unfold idle
    rw [hstop]
    cases hincoming : p.incoming with
    | nil => cases hended : p.ended <;> simp
    | cons b bs => simp

/-- What the task listens to is what there is to do. -/
theorem listen_isSome (hp : p.Reads) (hstop : m.stop = false) :
    (t.listen m h p owner).isSome = t.hasWork p := by
  unfold listen
  cases howes : t.wire.owes with
  | false => exact receive_isSome hp hstop howes
  | true =>
    obtain ⟨out, hflush⟩ := Wire.flush_of_reads hp t.wire
    have hadvanced : t.wire.advanced { t.wire with out := [], pong := none } = true := by
      unfold Wire.advanced
      unfold Wire.owes at howes
      cases hout : t.wire.out with
      | nil => simp_all
      | cons b bs => simp
    have hwork : t.hasWork p = true := by
      unfold hasWork
      rw [howes, Bool.true_or]
    rw [if_pos rfl, hflush, hwork]
    dsimp only
    rw [if_pos hadvanced]
    rfl

theorem push_isSome (hp : p.Reads) {deadline now : Nat} {done failed : Task → Pipe → Taken} :
    (t.push h p deadline now done failed).isSome = true := by
  obtain ⟨out, hflush⟩ := Wire.flush_of_reads hp t.wire
  unfold push
  rw [hflush]
  rfl

/-- Without work, all is written, and all that the client said is read. -/
theorem said_of_idle (h : t.hasWork p = false) : t.wire.owes = false ∧
    t.wire.receiver.said = [] ∧ p.incoming = [] ∧ p.ended = false := by
  unfold hasWork at h
  obtain ⟨howes, hread⟩ := Bool.or_eq_false_iff.mp h
  split at hread
  · next hmessage =>
    obtain ⟨hincoming, hended⟩ := Bool.or_eq_false_iff.mp hread
    exact ⟨howes, Receiver.said_of_none hmessage, by simpa using hincoming, hended⟩
  · cases hread

/-- Without a signal, the task of a client that reads takes no step in two cases: it has ended, or
it waits with nothing to do. -/
theorem step_eq_none_iff (hp : p.Reads) (hs : h.sessions.get? t.session = some s)
    (hstop : m.stop = false) : t.step m h p = none ↔
      t.stage = .ended ∨ (t.stage = .waiting ∧ s.queue = [] ∧ t.hasWork p = false) := by
  unfold step
  rw [hs]
  dsimp only
  cases hstage : t.stage with
  | ready =>
    dsimp only
    split <;> simp
  | waiting =>
    dsimp only
    unfold serve Session.take?
    cases hqueue : s.queue with
    | nil =>
      dsimp only
      rw [listen_isSome hp hstop]
      cases t.hasWork p <;> simp
    | cons text rest => simp [hstop]
  | listening => simp
  | writing deadline =>
    dsimp only
    rw [hstop, if_neg (by simp), ← Option.not_isSome_iff_eq_none, push_isSome hp]
    simp
  | answering text => simp
  | left e => simp
  | closing deadline =>
    dsimp only
    rw [← Option.not_isSome_iff_eq_none, push_isSome hp]
    simp
  | leaving deadline =>
    simp [Pipe.shutdown_of_reads hp]
  | ended => simp

end Task

namespace Course

variable {commands : CommandTable Home} {owner : Principal} {base : Bytes} {c : Course}
  {m : Moment} {s : Session} {taken : Taken}

/-! ## Measures -/

/-- How much there is to read; octets count less once they are at the receiver. -/
def unread (t : Task) (p : Pipe) : Nat :=
  2 * p.incoming.length + t.wire.receiver.buffer.length

/-- The place of a stage between two reads. -/
def rank (work : Bool) : Stage → Nat
  | .answering _ => 10
  | .writing _ => 4
  | .ready => 3
  | .waiting => if work then 2 else 0
  | .listening => 1
  | .left _ => 3
  | .closing _ => 2
  | .leaving _ => 1
  | .ended => 0

/-- Does the task owe the client octets? -/
def owing (t : Task) : Nat := if t.wire.owes then 1 else 0

/-- How much there is to do before more is read; all that is done for the client comes before any of
the shutdown. -/
def toDo (t : Task) (p : Pipe) (queue : List String) : Nat :=
  if t.stage.isOpen then 10 + 6 * queue.length + owing t + rank (t.hasWork p) t.stage
  else rank (t.hasWork p) t.stage

/-- Is less left to read, or as much to read and less to do? -/
def Lessens (c : Course) (taken : Taken) : Prop :=
  unread taken.task taken.pipe < unread c.task c.pipe ∨
    (unread taken.task taken.pipe ≤ unread c.task c.pipe ∧
      toDo taken.task taken.pipe (queueOf taken.home c.task.session) <
        toDo c.task c.pipe c.queue)

theorem owing_le (t : Task) : owing t ≤ 1 := by
  unfold owing
  split <;> omega

theorem toDo_of_isOpen {t : Task} {p : Pipe} {queue : List String} (h : t.stage.isOpen = true) :
    toDo t p queue = 10 + 6 * queue.length + owing t + rank (t.hasWork p) t.stage := by
  unfold toDo
  rw [if_pos h]

theorem toDo_of_shut {t : Task} {p : Pipe} {queue : List String} (h : t.stage.isOpen = false) :
    toDo t p queue = rank (t.hasWork p) t.stage := by
  unfold toDo
  rw [if_neg (by rw [h]; simp)]

theorem rank_waiting_le (work : Bool) : rank work .waiting ≤ 2 := by
  cases work <;> decide

/-- A task that stops serving has less to do. -/
theorem lessens_of_left (hopen : c.task.stage.isOpen = true) {e : Exit}
    (hleft : taken.task.stage = .left e)
    (hunread : unread taken.task taken.pipe ≤ unread c.task c.pipe) : c.Lessens taken := by
  refine Or.inr ⟨hunread, ?_⟩
  rw [toDo_of_isOpen hopen, toDo_of_shut (by rw [hleft]; rfl), hleft]
  show 3 < _
  omega

/-- A step from one open stage to another that leaves all else as it is. -/
theorem lessens_of_rank (hopen : c.task.stage.isOpen = true)
    (hopen' : taken.task.stage.isOpen = true)
    (hunread : unread taken.task taken.pipe ≤ unread c.task c.pipe)
    (hless : 6 * (queueOf taken.home c.task.session).length + owing taken.task +
      rank (taken.task.hasWork taken.pipe) taken.task.stage <
        6 * c.queue.length + owing c.task + rank (c.task.hasWork c.pipe) c.task.stage) :
    c.Lessens taken := by
  refine Or.inr ⟨hunread, ?_⟩
  rw [toDo_of_isOpen hopen, toDo_of_isOpen hopen']
  omega

/-- A step of the shutdown to a later stage of it. -/
theorem lessens_of_shut (hshut : c.task.stage.isOpen = false)
    (hshut' : taken.task.stage.isOpen = false)
    (hunread : unread taken.task taken.pipe ≤ unread c.task c.pipe)
    (hless : rank (taken.task.hasWork taken.pipe) taken.task.stage <
      rank (c.task.hasWork c.pipe) c.task.stage) : c.Lessens taken := by
  refine Or.inr ⟨hunread, ?_⟩
  rw [toDo_of_shut hshut, toDo_of_shut hshut']
  exact hless

/-- A message that is handled has been read. -/
theorem lessens_of_message {receiver : Receiver} {message : Message}
    (hmessage : c.task.wire.receiver.message = .ok (receiver, some message)) {t : Task} {p : Pipe}
    (ht : t.wire.receiver = receiver) (hp : p = c.pipe) : unread t p < unread c.task c.pipe := by
  have hless := (Receiver.next_length hmessage).2 rfl
  unfold unread
  rw [ht, hp]
  omega

/-- A text that is written is one less in the queue. -/
theorem lessens_of_write (hs : c.session? = some s) (hstage : c.task.stage = .waiting)
    {text : String} {rest : List String} (hqueue : s.queue = text :: rest) {deadline : Nat} :
    c.Lessens {
      deed := .wrote text, home := c.task.popped c.home s rest, pipe := c.pipe
      task := { c.task with
        wire := c.task.wire.queue (Frame.outgoing .text (utf8 text))
        stage := .writing deadline } } := by
  have hget := Sessions.get?_modify_self (fun _ => { s with queue := rest }) hs
  have hbefore : c.queue = s.queue := queueOf_of_get? hs
  refine lessens_of_rank (by rw [hstage]; rfl) rfl (Nat.le_refl _) ?_
  dsimp only
  rw [queueOf_of_get? (h := c.task.popped c.home s rest) hget, hbefore, hqueue, List.length_cons]
  have howing := owing_le {
    session := c.task.session
    wire := c.task.wire.queue (Frame.outgoing .text (utf8 text))
    stage := .writing deadline }
  show 6 * rest.length + _ + 4 < _
  omega

/-- An answer is one more text in the queue, at most. -/
theorem lessens_of_answer (hs : c.session? = some s) {text : String}
    (hstage : c.task.stage = .answering text) :
    c.Lessens (c.task.answer c.home c.pipe text) := by
  have hget := Sessions.get?_modify_self (fun _ => (s.send text).1) hs
  have hsend := Sessions.send_of_get? text hs
  have hbefore : c.queue = s.queue := queueOf_of_get? hs
  have hlength : (s.send text).1.queue.length ≤ s.queue.length + 1 := by
    rw [Session.send_queue, List.length_append]
    split <;> simp
  refine lessens_of_rank (by rw [hstage]; rfl) rfl (Nat.le_refl _) ?_
  unfold Task.answer
  rw [hsend]
  dsimp only
  have hafter : queueOf ⟨c.home.devices, c.home.sessions.modify c.task.session
      fun _ => (s.send text).1⟩ c.task.session = (s.send text).1.queue := queueOf_of_get? hget
  rw [hafter, hbefore, hstage]
  show 6 * _ + owing c.task + 3 < 6 * _ + owing c.task + 10
  omega

theorem lessens_of_retire {e : Exit} (hstage : c.task.stage = .left e) :
    c.Lessens (c.task.retire m c.home c.pipe e) := by
  have hshut : c.task.stage.isOpen = false := by rw [hstage]; rfl
  rcases Task.retire_cases m c.home c.pipe c.task e with heq | ⟨close, he, hopen⟩
  · rw [heq]
    refine lessens_of_shut hshut rfl (Nat.le_refl _) ?_
    rw [hstage]
    exact Nat.lt_succ_of_lt (Nat.lt_succ_self 1)
  · rw [Task.retire_of_open he hopen]
    refine lessens_of_shut hshut rfl (Nat.le_refl _) ?_
    rw [hstage]
    exact Nat.lt_succ_self 2

/-- Every step without a signal leaves less to read, or less to do. -/
theorem step_lessens (hp : c.pipe.Reads) (hs : c.session? = some s) (hstop : m.stop = false)
    (htook : c.task.Took m c.home c.pipe s taken) : c.Lessens taken := by
  obtain ⟨out, hflush⟩ := Wire.flush_of_reads hp c.task.wire
  cases htook with
  | overflow hstage _ =>
    exact lessens_of_left (by rw [hstage]; rfl) rfl (Nat.le_refl _)
  | checked hstage _ =>
    refine lessens_of_rank (by rw [hstage]; rfl) rfl (Nat.le_refl _) ?_
    have hrank := rank_waiting_le (c.task.hasWork c.pipe)
    rw [hstage]
    exact Nat.add_lt_add_left (Nat.lt_succ_of_le hrank) _
  | dropped _ _ h => cases hstop.symm.trans h
  | wrote hstage hqueue' _ => exact lessens_of_write hs hstage hqueue'
  | turned hstage hqueue' hwork =>
    refine lessens_of_rank (by rw [hstage]; rfl) rfl (Nat.le_refl _) ?_
    rw [Task.listen_isSome hp hstop] at hwork
    rw [hstage, hwork]
    exact Nat.lt_succ_self _
  | slept hstage hnone =>
    refine lessens_of_rank (by rw [hstage]; rfl) rfl (Nat.le_refl _) ?_
    have hidle : c.task.hasWork c.pipe = false := by
      rw [← Task.listen_isSome hp hstop, hnone]
      rfl
    rw [hstage]
    show 6 * c.queue.length + owing c.task + rank (c.task.hasWork c.pipe) .waiting < _
    rw [hidle]
    exact Nat.lt_succ_self _
  | flushed hstage howes =>
    refine lessens_of_rank (by rw [hstage]; rfl) (by rw [hstage]; rfl) ?_ ?_
    · rw [hflush]
      exact Nat.le_refl _
    · dsimp only
      rw [hflush, hstage]
      show 6 * c.queue.length + 0 + 1 < 6 * c.queue.length + owing c.task + 1
      unfold owing
      rw [howes, if_pos rfl]
      omega
  | lost _ hfailed => cases (Wire.flush_done_of_reads hp c.task.wire).symm.trans hfailed
  | faulted hstage _ _ => exact lessens_of_left (by rw [hstage]; rfl) rfl (Nat.le_refl _)
  | @handled receiver message hstage _ hmessage =>
    obtain ⟨hpipe, _, hreceiver⟩ := Task.handle_kept m c.home c.pipe
      { c.task with wire := { c.task.wire with receiver } } s.owner message
    exact Or.inl (lessens_of_message hmessage hreceiver hpipe)
  | read hstage _ hmessage hread =>
    have hle := (Receiver.next_length hmessage).1
    obtain ⟨hincoming, rfl, rfl⟩ := Pipe.octets_of_reads hp hread
    have hpos : 0 < c.pipe.incoming.length := List.length_pos_iff.mpr hincoming
    refine Or.inl ?_
    unfold unread
    dsimp only
    rw [List.length_append, List.length_nil]
    omega
  | hungUp hstage _ hmessage hread =>
    have hle := (Receiver.next_length hmessage).1
    obtain ⟨_, _, rfl⟩ := Pipe.ended_of_reads hp hread
    refine lessens_of_left (by rw [hstage]; rfl) rfl ?_
    exact Nat.add_le_add_left hle _
  | unreadable _ _ _ hread => exact absurd hread (Pipe.not_failed_of_reads hp)
  | stopped _ _ _ _ h => cases hstop.symm.trans h
  | interrupted _ h => cases hstop.symm.trans h
  | written hstage _ _ =>
    refine lessens_of_rank (by rw [hstage]; rfl) rfl ?_ ?_
    · rw [hflush]
      exact Nat.le_refl _
    · rw [hstage, hflush]
      show 6 * c.queue.length + 0 + 3 < 6 * c.queue.length + owing c.task + 4
      omega
  | stalled _ _ hundone => exact absurd (Wire.flush_done_of_reads hp c.task.wire) hundone
  | pushed _ hblocked => cases (Wire.flush_done_of_reads hp c.task.wire).symm.trans hblocked
  | answered hstage => exact lessens_of_answer hs hstage
  | retired hstage => exact lessens_of_retire hstage
  | closed hstage =>
    refine lessens_of_shut (by rw [hstage]; rfl) rfl ?_ ?_
    · rw [hflush]
      exact Nat.le_refl _
    · rw [hstage]
      exact Nat.lt_succ_self 1
  | finished hstage hpipe =>
    refine lessens_of_shut (by rw [hstage]; rfl) rfl ?_ ?_
    · rcases hpipe with rfl | rfl <;> exact Nat.le_refl _
    · rw [hstage]
      exact Nat.lt_succ_self 0

/-! ## Rest -/

/-- Can the task do nothing more, unless something happens or the signal comes? -/
def AtRest (c : Course) : Prop :=
  ∀ m : Moment, m.stop = false → c.task.step m c.home c.pipe = none

/-- The first steps of the task at a row of moments. -/
def steps (moments : Nat → Moment) (n : Nat) : List Happening :=
  (List.range n).map fun i => .step (moments i)

theorem steps_succ (moments : Nat → Moment) (n : Nat) :
    steps moments (n + 1) = .step (moments 0) :: steps (fun i => moments (i + 1)) n := by
  unfold steps
  rw [List.range_succ_eq_map, List.map_cons, List.map_map]
  rfl

theorem atRest_of_none (hp : c.pipe.Reads) (hs : c.session? = some s) (hstop : m.stop = false)
    (hnone : c.task.step m c.home c.pipe = none) : c.AtRest :=
  fun _ hstop' =>
    (Task.step_eq_none_iff hp hs hstop').mpr ((Task.step_eq_none_iff hp hs hstop).mp hnone)

/-- A step of the task makes no client stop reading, or hang up. -/
theorem pipe_of_took (hp : c.pipe.Reads) (htook : c.task.Took m c.home c.pipe s taken) :
    taken.pipe.Reads ∧ taken.pipe.ended = c.pipe.ended := by
  obtain ⟨out, hflush⟩ := Wire.flush_of_reads hp c.task.wire
  have hflushed : (c.task.wire.flush c.pipe).2.1.Reads ∧
      (c.task.wire.flush c.pipe).2.1.ended = c.pipe.ended := by
    rw [hflush]
    exact ⟨hp, rfl⟩
  have hread : ∀ {p' r}, c.pipe.read c.pipe.incoming.length = (p', r) →
      p'.Reads ∧ p'.ended = c.pipe.ended := by
    intro p' r hread
    rw [Pipe.read_of_reads hp] at hread
    split at hread
    · split at hread <;> cases hread <;> exact ⟨hp, rfl⟩
    · cases hread
      exact ⟨hp, rfl⟩
  cases htook with
  | overflow | checked | dropped | wrote | turned | slept | faulted | interrupted =>
    exact ⟨hp, rfl⟩
  | flushed | lost | written | stalled | pushed | closed => exact hflushed
  | read _ _ _ h => exact hread h
  | hungUp _ _ _ h => exact hread h
  | unreadable _ _ _ h => exact hread h
  | stopped _ _ _ h _ => exact hread h
  | @handled _ message =>
    rw [(Task.handle_kept m c.home c.pipe _ s.owner message).1]
    exact ⟨hp, rfl⟩
  | answered => exact ⟨hp, rfl⟩
  | retired => exact ⟨hp, rfl⟩
  | finished _ hpipe => rcases hpipe with rfl | rfl <;> exact ⟨hp, rfl⟩

/-- A client that reads is heard by a session that exists. -/
def Alive (base : Bytes) (c : Course) : Prop := c.pipe.Reads ∧ ∃ frames, InOrder base frames c

theorem alive_perform (hc : c.Alive base) {a : Happening} (ha : a.Lone commands)
    (hcommands : commands.SendsOnly) : (c.perform a).Alive base := by
  obtain ⟨hp, frames, horder⟩ := hc
  refine ⟨?_, inOrder_perform horder (Happening.Lone.tame ha hcommands)⟩
  cases a with
  | send text => cases ha
  | elsewhere h =>
    unfold perform
    dsimp only
    split <;> exact hp
  | octets bs =>
    unfold perform
    dsimp only
    split <;> exact hp
  | receive =>
    unfold perform Pipe.take
    dsimp only
    split <;> exact hp
  | network room faults gone ended =>
    obtain ⟨hroom, hfaults, hgone⟩ := ha
    exact ⟨hroom, hgone, hfaults⟩
  | step m =>
    unfold perform
    dsimp only
    split
    · exact hp
    · next taken hstep =>
      obtain ⟨s, hs⟩ := horder.exists_session
      exact (pipe_of_took hp (Task.step_took hs hstep)).1

/-- Left to its own steps, the task of a lone client comes to rest; the client says nothing
meanwhile. -/
theorem comes_to_rest {c : Course} (hc : c.Alive base) (hcommands : commands.SendsOnly)
    (moments : Nat → Moment)
    (hmoments : ∀ i, (moments i).stop = false ∧ (moments i).commands = commands) :
    ∃ n, (c.run (steps moments n)).AtRest ∧ (c.run (steps moments n)).inbound = c.inbound := by
  obtain ⟨s, hs⟩ := hc.2.elim fun _ h => h.exists_session
  cases hstep : c.task.step (moments 0) c.home c.pipe with
  | none => exact ⟨0, atRest_of_none hc.1 hs (hmoments 0).1 hstep, rfl⟩
  | some taken =>
    have htook := Task.step_took hs hstep
    have hless := step_lessens hc.1 hs (hmoments 0).1 htook
    have hafter : c.perform (.step (moments 0)) = c.after taken := perform_step hstep
    have halive := alive_perform hc (a := .step (moments 0)) (hmoments 0) hcommands
    rw [hafter] at halive
    obtain ⟨n, hrest, hinbound⟩ := comes_to_rest halive hcommands (fun i => moments (i + 1))
      fun i => hmoments (i + 1)
    have hrun : c.run (steps moments (n + 1)) =
        (c.after taken).run (steps (fun i => moments (i + 1)) n) := by
      rw [steps_succ, ← hafter]
      rfl
    have hsaid : (c.after taken).inbound = c.inbound := by
      unfold inbound
      show _ ++ (if taken.pipe.ended then _ else _) = _
      rw [(pipe_of_took hc.1 htook).2]
      rfl
    refine ⟨n + 1, ?_, ?_⟩
    · rw [hrun]
      exact hrest
    · rw [hrun, hinbound, hsaid]
termination_by (unread c.task c.pipe, toDo c.task c.pipe c.queue)
decreasing_by
  have hqueue : (c.after taken).queue = queueOf taken.home c.task.session :=
    congrArg (queueOf taken.home) htook.session_eq
  rw [hqueue]
  rcases hless with hless | ⟨hle, hless⟩
  · exact Prod.Lex.left _ _ hless
  · rcases Nat.lt_or_eq_of_le hle with hlt | heq
    · exact Prod.Lex.left _ _ hlt
    · exact Prod.lex_def.mpr (Or.inr ⟨heq, hless⟩)

end Course

end DeviceGateway.Channel
