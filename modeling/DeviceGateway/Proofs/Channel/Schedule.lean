import Mathlib.Data.Prod.Lex
import Mathlib.Order.WellFounded
import DeviceGateway.Proofs.Channel.Farewell

/-
  Schedules: happenings without end, among which the task of a session gets its turn again and
  again. A session that accepts no more comes to its end on every one of them (`comes_to_end`). Its
  task does not look away from a queue that is not empty, so no stage comes back; it stays in one
  only as long as something is left to write or to read, or its deadline is not due
  (`Refusing.nears`).
-/

open DeviceGateway.Stream (Pipe Poll Receipt)

namespace DeviceGateway.Channel

/-- What never grows, and lessens again and again, ends it. -/
theorem ends_of_lessening {α β : Type} [Preorder β] [WellFoundedLT β] {x : Nat → α} {P : α → Prop}
    (μ : α → β) (hkeep : ∀ n, μ (x (n + 1)) ≤ μ (x n))
    (hturn : ∀ n, ∃ k, n ≤ k ∧ (P (x k) ∨ μ (x (k + 1)) < μ (x k))) : ∃ n, P (x n) := by
  have hanti : Antitone fun n => μ (x n) := antitone_nat_of_succ_le hkeep
  have hends : ∀ b n, μ (x n) = b → ∃ k, P (x k) := by
    intro b
    induction b using WellFoundedLT.induction with
    | ind b ih =>
      intro n hn
      obtain ⟨k, hnk, hP | hless⟩ := hturn n
      · exact ⟨k, hP⟩
      · exact ih _ (hn ▸ hless.trans_le (hanti hnk)) (k + 1) rfl
  exact hends _ 0 rfl

/-- Does the task look into the queue in this stage, or has it just found the queue empty? -/
def Stage.looks : Stage → Bool
  | .waiting | .listening => true
  | _ => false

/-- How far is the stage from the end, when the session accepts no more? -/
def Stage.distance : Stage → Nat
  | .listening => 8
  | .waiting => 7
  | .writing _ | .answering _ => 6
  | .ready => 5
  | .left _ => 4
  | .closing _ => 3
  | .leaving _ => 2
  | .ended => 1

namespace Task

variable {m : Moment} {h : Home} {p : Pipe} {t : Task} {s : Session}

theorem push_isSome_of_due {deadline now : Nat} {done failed : Task → Pipe → Taken}
    (hdue : deadline ≤ now) : (t.push h p deadline now done failed).isSome = true := by
  unfold push
  split
  · rfl
  · rfl
  · rw [if_pos hdue]
    rfl

/-- A task whose deadline is due takes a step, unless it has ended or sleeps. -/
theorem step_isSome_of_due (hs : h.sessions.get? t.session = some s) (hended : t.stage ≠ .ended)
    (hqueue : t.stage.looks = true → s.queue ≠ [])
    (hdue : ∀ deadline, t.deadline? = some deadline → deadline ≤ m.now) :
    (t.step m h p).isSome = true := by
  unfold deadline? at hdue
  unfold step
  rw [hs]
  dsimp only
  cases hstage : t.stage with
  | ready =>
    dsimp only
    split <;> rfl
  | waiting =>
    obtain ⟨text, rest, hcons⟩ := List.exists_cons_of_ne_nil (hqueue (by rw [hstage]; rfl))
    dsimp only
    unfold serve Session.take?
    rw [hcons]
    dsimp only
    split <;> rfl
  | listening | answering | left => rfl
  | writing deadline =>
    rw [hstage] at hdue
    dsimp only
    split
    · rfl
    · exact push_isSome_of_due (hdue deadline rfl)
  | closing deadline =>
    rw [hstage] at hdue
    exact push_isSome_of_due (hdue deadline rfl)
  | leaving deadline =>
    rw [hstage] at hdue
    dsimp only
    split
    · rfl
    · rw [if_pos (hdue deadline rfl)]
      rfl
  | ended => exact absurd hstage hended

end Task

namespace Course

variable {c : Course} {m : Moment} {s : Session} {taken : Taken} {schedule : Nat → Happening}

/-- The course when the first `n` happenings of a schedule have come to pass. -/
def along (c : Course) (schedule : Nat → Happening) (n : Nat) : Course :=
  c.run ((List.range n).map schedule)

theorem along_succ (c : Course) (schedule : Nat → Happening) (n : Nat) :
    c.along schedule (n + 1) = (c.along schedule n).perform (schedule n) := by
  unfold along
  rw [List.range_succ, List.map_append, run_append]
  rfl

/-- Does the task find its deadline due, if it has one, and nothing left to read, if it listens? -/
def Due (c : Course) (m : Moment) : Prop :=
  (∀ deadline, c.task.deadline? = some deadline → deadline ≤ m.now) ∧
    (c.task.stage = .listening → c.pipe.incoming = [])

/-- Does the task get its turn again and again, until it has ended? Time does not stand still before
a deadline, and no client goes on sending while the task looks for one message. -/
def Fair (c : Course) (schedule : Nat → Happening) : Prop :=
  ∀ n, ∃ k, n ≤ k ∧ ((c.along schedule k).task.stage = .ended ∨
    ∃ m, schedule k = .step m ∧ (c.along schedule k).Due m)

/-! ## Sessions that accept no more -/

/-- Does the session accept no more, with texts in its queue when the task looks there? -/
def Refusing (c : Course) : Prop :=
  ∃ s, c.session? = some s ∧ s.state ≠ .accepting ∧ (c.task.stage.looks = true → s.queue ≠ [])

/-- What is left for the task: stages, and octets while it listens. -/
def toGo (c : Course) : Nat ×ₗ Nat :=
  toLex (c.task.stage.distance, if c.task.stage = .listening then pending c.task.wire else 0)

theorem toGo_lt_of_distance {c c' : Course}
    (h : c'.task.stage.distance < c.task.stage.distance) : c'.toGo < c.toGo :=
  Prod.Lex.toLex_lt_toLex.mpr (Or.inl h)

/-- A step that leaves the session as it is and looks into the queue only if the task did before. -/
theorem refusing_of_same (hs : c.session? = some s) (hstate : s.state ≠ .accepting)
    (hqueue : c.task.stage.looks = true → s.queue ≠ []) (hhome : taken.home = c.home)
    (hid : taken.task.session = c.task.session)
    (hlooks : taken.task.stage.looks = true → c.task.stage.looks = true) :
    (c.after taken).Refusing := by
  refine ⟨s, ?_, hstate, fun h => hqueue (hlooks h)⟩
  show taken.home.sessions.get? taken.task.session = some s
  rw [hhome, hid]
  exact hs

/-- A step that takes the task's eyes off the queue. -/
theorem refusing_of_away {s' : Session}
    (hs' : taken.home.sessions.get? taken.task.session = some s') (hstate : s'.state ≠ .accepting)
    (haway : taken.task.stage.looks = false) : (c.after taken).Refusing :=
  ⟨s', hs', hstate, fun h => by cases haway.symm.trans h⟩

/-- A message that is handled takes the task's eyes off the queue, and opens no session again. -/
theorem refusing_of_handle (hs : c.session? = some s) (hstate : s.state ≠ .accepting)
    (hm : m.commands.SendsOnly) (receiver : Receiver) (message : Message) :
    (c.after ({ c.task with wire := { c.task.wire with receiver } }.handle m c.home c.pipe s.owner
      message)).Refusing := by
  let t := { c.task with wire := { c.task.wire with receiver } }
  obtain ⟨texts, hsent⟩ := Task.handle_sends (t := t) hs hm c.pipe s.owner message
  rw [Session.sendAll_of_refusing texts hstate] at hsent
  have htask := (Task.handle_kept m c.home c.pipe t s.owner message).2.1
  refine refusing_of_away (htask ▸ hsent) hstate ?_
  unfold Task.handle
  split
  · split <;> rfl
  all_goals rfl

/-- Every step of a task whose session accepts no more leaves it so. -/
theorem refusing_after (hs : c.session? = some s) (hstate : s.state ≠ .accepting)
    (hqueue : c.task.stage.looks = true → s.queue ≠ [])
    (hm : c.task.stage = .listening → m.commands.SendsOnly)
    (htook : c.task.Took m c.home c.pipe s taken) : (c.after taken).Refusing := by
  cases htook with
  | checked _ haccepts => exact absurd haccepts hstate
  | turned hstage hempty _ => exact absurd hempty (hqueue (by rw [hstage]; rfl))
  | dropped => exact refusing_of_away (Sessions.get?_modify_self _ hs) hstate rfl
  | wrote => exact refusing_of_away (Sessions.get?_modify_self _ hs) hstate rfl
  | slept hstage _ =>
    exact refusing_of_same hs hstate hqueue rfl rfl fun _ => by rw [hstage]; rfl
  | handled hstage _ _ => exact refusing_of_handle hs hstate (hm hstage) _ _
  | flushed | read | pushed => exact refusing_of_same hs hstate hqueue rfl rfl id
  | @answered text hstage =>
    unfold Task.answer
    rw [Sessions.send_of_get? text hs]
    refine refusing_of_away (Sessions.get?_modify_self _ hs) ?_ rfl
    rw [Session.send_of_refusing text hstate]
    exact hstate
  | @retired e _ =>
    have hmarked := Sessions.get?_modify_self (fun s => { s with state := .closing }) hs
    rcases Task.retire_cases m c.home c.pipe c.task e with heq | ⟨close, he, hopen⟩
    · rw [heq]
      exact refusing_of_away hmarked nofun rfl
    · rw [Task.retire_of_open he hopen]
      exact refusing_of_away hmarked nofun rfl
  | finished => exact refusing_of_away (Sessions.get?_modify_self _ hs) nofun rfl
  | _ => exact refusing_of_away hs hstate rfl

theorem distance_left_lt {stage : Stage} (hopen : stage.isOpen = true) (e : Exit) :
    (Stage.left e).distance < stage.distance := by
  cases stage <;> simp_all [Stage.isOpen, Stage.distance]

/-- No step brings such a task further from the end; it comes nearer when its deadline is due and
nothing is left to read. -/
theorem toGo_after (hstate : s.state ≠ .accepting)
    (hqueue : c.task.stage.looks = true → s.queue ≠ [])
    (htook : c.task.Took m c.home c.pipe s taken) :
    (c.after taken).toGo < c.toGo ∨ ((c.after taken).toGo = c.toGo ∧ ¬ c.Due m) := by
  have hleft : ∀ {h p t e}, c.task.stage.isOpen = true →
      (c.after (Task.leave h p t e)).toGo < c.toGo :=
    fun hopen => toGo_lt_of_distance (distance_left_lt hopen _)
  cases htook with
  | checked _ haccepts => exact absurd haccepts hstate
  | turned hstage hempty _ => exact absurd hempty (hqueue (by rw [hstage]; rfl))
  | overflow hstage | dropped hstage | lost hstage | faulted hstage | hungUp hstage
  | unreadable hstage | stopped hstage | interrupted hstage | stalled hstage =>
    exact Or.inl (hleft (by rw [hstage]; rfl))
  | wrote hstage | slept hstage | written hstage | answered hstage | closed hstage
  | finished hstage =>
    refine Or.inl (toGo_lt_of_distance ?_)
    rw [hstage]
    simp [after, Task.answer, Task.finish, Stage.distance]
  | @handled receiver message hstage _ _ =>
    refine Or.inl (toGo_lt_of_distance ?_)
    rw [hstage]
    show ({ c.task with wire := { c.task.wire with receiver } }.handle m c.home c.pipe s.owner
      message).task.stage.distance < 8
    unfold Task.handle
    split
    · split <;> simp [Task.leave, Stage.distance]
    all_goals simp [Task.leave, Stage.distance]
  | @retired e hstage =>
    refine Or.inl (toGo_lt_of_distance ?_)
    rw [hstage]
    rcases Task.retire_cases m c.home c.pipe c.task e with heq | ⟨close, he, hopen⟩
    · rw [heq]
      simp [after, Stage.distance]
    · rw [Task.retire_of_open he hopen]
      simp [after, Stage.distance]
  | flushed hstage _ hadvanced =>
    refine Or.inl (Prod.Lex.toLex_lt_toLex.mpr (Or.inr ⟨rfl, ?_⟩))
    simpa [after, hstage] using flush_pending hadvanced
  | read hstage _ _ hread =>
    refine Or.inr ⟨rfl, fun hdue => ?_⟩
    obtain ⟨hne, hincoming⟩ := Pipe.read_octets hread
    rw [hdue.2 hstage] at hincoming
    exact hne (List.append_eq_nil_iff.mp hincoming.symm).1
  | @pushed deadline hstage _ _ hearly =>
    have haway : c.task.stage ≠ .listening := by
      rcases hstage with h | h <;> rw [h] <;> nofun
    have hdeadline : c.task.deadline? = some deadline := by
      unfold Task.deadline?
      rcases hstage with h | h <;> rw [h]
    refine Or.inr ⟨?_, fun hdue => Nat.not_le_of_lt hearly (hdue.1 deadline hdeadline)⟩
    simp [toGo, after, haway]

/-! ## Whole schedules -/

/-- What happens outside the task makes no session accept again, and does not bring the task further
from its end. -/
theorem Refusing.perform (hc : c.Refusing) {a : Happening}
    (ha : c.task.stage.isOpen = true → a.Tame) :
    (c.perform a).Refusing ∧ (c.perform a).toGo ≤ c.toGo := by
  obtain ⟨s, hs, hstate, hqueue⟩ := hc
  rcases perform_of_refusing hs hstate a with hsame | ⟨m, taken, rfl, htook, hafter⟩
  · refine ⟨⟨s, hsame.session_eq.trans hs, hstate, ?_⟩, ?_⟩
    · rw [hsame.task_eq]
      exact hqueue
    · unfold toGo
      rw [hsame.task_eq]
  · rw [hafter]
    refine ⟨refusing_after hs hstate hqueue (fun h => ha (by rw [h]; rfl)) htook, ?_⟩
    rcases toGo_after hstate hqueue htook with hless | ⟨heq, _⟩
    · exact hless.le
    · exact heq.le

/-- When its deadline is due and nothing is left to read, the task comes nearer to its end. -/
theorem Refusing.nears (hc : c.Refusing) (hended : c.task.stage ≠ .ended) (hdue : c.Due m) :
    (c.perform (.step m)).toGo < c.toGo := by
  obtain ⟨s, hs, hstate, hqueue⟩ := hc
  obtain ⟨taken, hstep⟩ :=
    Option.isSome_iff_exists.mp (Task.step_isSome_of_due hs hended hqueue hdue.1)
  rw [perform_step hstep]
  exact (toGo_after hstate hqueue (Task.step_took hs hstep)).resolve_right fun h => h.2 hdue

/-- A session that accepts no more comes to its end, whatever the client and the connection do. -/
theorem Refusing.comes_to_end (hc : c.Refusing) (hfair : c.Fair schedule)
    (htame : ∀ n, (c.along schedule n).task.stage.isOpen = true → (schedule n).Tame) :
    ∃ n, (c.along schedule n).task.stage = .ended := by
  have hrefuses : ∀ n, (c.along schedule n).Refusing := by
    intro n
    induction n with
    | zero => exact hc
    | succ n ih =>
      rw [along_succ]
      exact (ih.perform (htame n)).1
  have hends := ends_of_lessening (x := c.along schedule) (P := fun c => c.task.stage = .ended) toGo
  refine hends (fun n => ?_) fun n => ?_
  · rw [along_succ]
    exact ((hrefuses n).perform (htame n)).2
  · obtain ⟨k, hnk, hended | ⟨m, hstep, hdue⟩⟩ := hfair n
    · exact ⟨k, hnk, Or.inl hended⟩
    · refine ⟨k, hnk, or_iff_not_imp_left.mpr fun hended => ?_⟩
      rw [along_succ, hstep]
      exact (hrefuses k).nears hended hdue

/-! ## Turns of the task alone -/

/-- The next turn of the task, at the time of its deadline if it has one. -/
def nextTurn (c : Course) : Happening :=
  .step { stop := false, now := c.task.deadline?.getD 0 }

/-- The course after turns of its task alone. -/
def afterTurns (c : Course) : Nat → Course
  | 0 => c
  | n + 1 => (c.afterTurns n).perform (c.afterTurns n).nextTurn

/-- The schedule on which nothing happens but turns of the task. -/
def turns (c : Course) (n : Nat) : Happening := (c.afterTurns n).nextTurn

theorem along_turns (c : Course) (n : Nat) : c.along c.turns n = c.afterTurns n := by
  induction n with
  | zero => rfl
  | succ n ih =>
    rw [along_succ, ih]
    rfl

theorem read_nil {p p' : Pipe} {k : Nat} {r : Poll Receipt} (hp : p.incoming = [])
    (hread : p.read k = (p', r)) : p'.incoming = [] := by
  unfold Pipe.read at hread
  split at hread
  · cases hread
    exact hp
  · simp only [hp, List.isEmpty_nil, if_true] at hread
    split at hread <;> cases hread <;> exact hp

/-- No step of the task makes the client say anything. -/
theorem incoming_perform (hc : c.pipe.incoming = []) (m : Moment) :
    (c.perform (.step m)).pipe.incoming = [] := by
  have hflushed : (c.task.wire.flush c.pipe).2.1.incoming = [] :=
    (Wire.flush_incoming c.task.wire c.pipe).1.trans hc
  cases hstep : c.task.step m c.home c.pipe with
  | none =>
    unfold perform
    dsimp only
    rw [hstep]
    exact hc
  | some taken =>
    obtain ⟨s, hs⟩ := Task.exists_session_of_step hstep
    rw [perform_step hstep]
    cases Task.step_took hs hstep with
    | flushed | lost | written | stalled | pushed | closed => exact hflushed
    | read _ _ _ hread => exact read_nil hc hread
    | hungUp _ _ _ hread => exact read_nil hc hread
    | unreadable _ _ _ hread => exact read_nil hc hread
    | stopped _ _ _ hread => exact read_nil hc hread
    | handled =>
      show (Task.handle ..).pipe.incoming = []
      rw [(Task.handle_kept ..).1]
      exact hc
    | finished _ hpipe => rcases hpipe with rfl | rfl <;> exact hc
    | _ => exact hc

/-- Left to itself a task gets its turns, when its client says nothing. -/
theorem fair_turns (hc : c.pipe.incoming = []) : c.Fair c.turns := by
  have hsilent : ∀ n, (c.afterTurns n).pipe.incoming = [] := by
    intro n
    induction n with
    | zero => exact hc
    | succ n ih => exact incoming_perform ih _
  refine fun n => ⟨n, le_refl n, Or.inr ⟨_, rfl, fun deadline hdeadline => ?_, fun _ => ?_⟩⟩
  · rw [along_turns] at hdeadline
    rw [hdeadline]
    exact le_refl deadline
  · rw [along_turns]
    exact hsilent n

theorem turns_tame (c : Course) (n : Nat) : (c.turns n).Tame := Home.commands_sendsOnly

end Course

end DeviceGateway.Channel
