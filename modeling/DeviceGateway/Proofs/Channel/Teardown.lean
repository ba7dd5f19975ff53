import DeviceGateway.Proofs.Channel.Due
import DeviceGateway.Proofs.Channel.Schedule

/-
  The shutdown of a session always completes. Its task goes from the close frame to the shutdown of
  the connection, whatever comes of the frame, and from there to its end (`Took.of_follows`); the
  session refuses every text meanwhile (`Parting`). Each of the two stages lasts no longer than its
  deadline (`InTime`), and both come to an end.
-/

open DeviceGateway.Stream (Pipe Poll)

namespace DeviceGateway.Channel

/-- How long the shutdown takes at most when each of its stages has `stage` of time: nothing is said
on a broken connection. -/
def Exit.shutdownTime (e : Exit) (stage : Nat) : Nat :=
  match e with
  | .broken => stage
  | _ => 2 * stage

theorem Exit.stage_le_shutdownTime (e : Exit) (stage : Nat) : stage ≤ e.shutdownTime stage := by
  cases e <;> simp only [shutdownTime] <;> omega

/-- Is the stage one of the shutdown that follows `e`? -/
def Stage.Follows (e : Exit) : Stage → Prop
  | .closing _ => e ≠ .broken
  | .leaving _ | .ended => True
  | _ => False

/-- In the shutdown, nothing is served any more. -/
theorem Stage.Follows.shut {e : Exit} {stage : Stage} (h : stage.Follows e) :
    stage.isOpen = false ∧ stage.looks = false := by
  cases stage <;> first | exact ⟨rfl, rfl⟩ | cases h

namespace Task

variable {m : Moment} {h : Home} {p : Pipe} {t : Task} {s : Session} {taken : Taken} {e : Exit}

/-- In the shutdown a task writes its close frame, goes on to shut the connection down, or ends. -/
theorem Took.of_follows (htook : t.Took m h p s taken) (hfollows : t.stage.Follows e) :
    (∃ deadline, t.stage = .closing deadline ∧ taken.deed = .moved ∧ taken.home = h ∧
      (taken.task.stage = .closing deadline ∨
        taken.task.stage = .leaving (m.now + m.deadlines.shutdownStage))) ∨
    ∃ deadline p' outcome, t.stage = .leaving deadline ∧ taken = finish h p' t outcome := by
  cases htook with
  | pushed hstage =>
    rcases hstage with hstage | hstage
    · rw [hstage] at hfollows
      cases hfollows
    · exact Or.inl ⟨_, hstage, rfl, rfl, Or.inl hstage⟩
  | closed hstage => exact Or.inl ⟨_, hstage, rfl, rfl, Or.inr rfl⟩
  | finished hstage => exact Or.inr ⟨_, _, _, hstage, rfl⟩
  | overflow hstage | checked hstage | dropped hstage | wrote hstage | turned hstage
  | slept hstage | flushed hstage | lost hstage | faulted hstage | handled hstage | read hstage
  | hungUp hstage | unreadable hstage | stopped hstage | interrupted hstage | written hstage
  | stalled hstage | answered hstage | retired hstage =>
    rw [hstage] at hfollows
    cases hfollows

end Task

namespace Course

variable {c c' : Course} {m : Moment} {s : Session} {taken : Taken} {e : Exit}

/-- What the steps of the task were. -/
def did (c : Course) : List Deed := c.deeds.map (·.2)

/-! ## What is done -/

/-- What has become of `c`, whose open state had ended by `e`, since its shutdown began. -/
structure Parting (e : Exit) (c c' : Course) : Prop where
  follows : c'.task.stage.Follows e
  session : ∃ s, c'.session? = some s ∧
    s.state = if c'.task.stage = .ended then .closed else .closing
  accepted_eq : c'.accepted = c.accepted
  deeds : ∃ (moves : Nat) (outcome : Option (Poll Bool)), c'.did = c.did ++ .parted e.farewell ::
    (List.replicate moves .moved ++ (outcome.map Deed.shut).toList) ∧
    (c'.task.stage = .ended ↔ outcome.isSome = true)

theorem perform_of_left (hs : c.session? = some s) (hstage : c.task.stage = .left e) (m : Moment) :
    c.perform (.step m) = c.after (c.task.retire m c.home c.pipe e) :=
  perform_step (Task.step_retires hs hstage)

/-- The shutdown begins with an attempt at a close frame, unless the connection is broken. -/
theorem parting_begins (hs : c.session? = some s) (hstage : c.task.stage = .left e) (m : Moment) :
    Parting e c (c.perform (.step m)) := by
  have hmarked := Sessions.get?_modify_self (fun s => { s with state := .closing }) hs
  have hdid : ∀ {taken : Taken}, taken.deed = .parted e.farewell → (c.after taken).did =
      c.did ++ .parted e.farewell :: (List.replicate 0 .moved ++ (none.map Deed.shut).toList) := by
    intro taken hdeed
    show (c.deeds ++ [(c.home, taken.deed)]).map (·.2) = _
    rw [List.map_append, hdeed]
    rfl
  rw [perform_of_left hs hstage]
  rcases Task.retire_cases m c.home c.pipe c.task e with heq | ⟨close, he, hopen⟩
  · rw [heq]
    exact ⟨trivial, ⟨_, hmarked, rfl⟩, List.append_nil _, 0, none, hdid rfl, nofun, nofun⟩
  · rw [Task.retire_of_open he hopen]
    have hloud : e ≠ .broken := fun h => by cases (Exit.farewell_eq_none.mpr h).symm.trans he
    exact ⟨hloud, ⟨_, hmarked, rfl⟩, List.append_nil _, 0, none, hdid (by rw [he]), nofun, nofun⟩

/-- The task goes on with the shutdown. -/
theorem Parting.step (hp : Parting e c c') (htook : c'.task.Took m c'.home c'.pipe s taken)
    (hs : c'.session? = some s) : Parting e c (c'.after taken) := by
  obtain ⟨moves, outcome, hdid, hover⟩ := hp.deeds
  obtain ⟨s', hs', hstate⟩ := hp.session
  cases hs'.symm.trans hs
  have hgoing : c'.task.stage ≠ .ended → outcome = none := by
    intro hne
    cases outcome with
    | none => rfl
    | some outcome => exact absurd (hover.mpr rfl) hne
  have hafter : (c'.after taken).did = c'.did ++ [taken.deed] := List.map_append
  rcases htook.of_follows hp.follows with
    ⟨deadline, hstage, hdeed, hhome, hnext⟩ | ⟨deadline, p', outcome', hstage, rfl⟩
  · have hne : c'.task.stage ≠ .ended := by rw [hstage]; nofun
    have hne' : taken.task.stage ≠ .ended := by rcases hnext with h | h <;> rw [h] <;> nofun
    obtain rfl := hgoing hne
    rw [if_neg hne] at hstate
    refine ⟨?_, ⟨s, ?_, ?_⟩, ?_, moves + 1, none, ?_, ?_⟩
    · show taken.task.stage.Follows e
      have hclose := hp.follows
      rw [hstage] at hclose
      rcases hnext with h | h <;> rw [h]
      · exact hclose
      · trivial
    · show taken.home.sessions.get? taken.task.session = some s
      rw [hhome, htook.session_eq]
      exact hs
    · exact hstate.trans (if_neg hne').symm
    · show c'.accepted ++ c'.gained taken = c.accepted
      unfold gained
      rw [hdeed, List.append_nil]
      exact hp.accepted_eq
    · rw [hafter, hdid, hdeed, List.replicate_succ']
      simp
    · exact ⟨fun h => absurd h hne', nofun⟩
  · have hne : c'.task.stage ≠ .ended := by rw [hstage]; nofun
    obtain rfl := hgoing hne
    refine ⟨trivial, ⟨_, Sessions.get?_modify_self _ hs, rfl⟩, ?_, moves, some outcome', ?_, ?_⟩
    · exact (List.append_nil _).trans hp.accepted_eq
    · rw [hafter, hdid]
      simp [Task.finish]
    · exact ⟨fun _ => rfl, fun _ => rfl⟩

/-- Whatever happens to a session in its shutdown. -/
theorem Parting.perform (hp : Parting e c c') (a : Happening) : Parting e c (c'.perform a) := by
  obtain ⟨s, hs, hstate⟩ := id hp.session
  have hrefuses : s.state ≠ .accepting := by
    rw [hstate]
    split <;> nofun
  rcases perform_of_refusing hs hrefuses a with hsame | ⟨m, taken, rfl, htook, hafter⟩
  · refine ⟨?_, ⟨s, hsame.session_eq.trans hs, ?_⟩, hsame.accepted_eq.trans hp.accepted_eq, ?_⟩
    · rw [hsame.task_eq]
      exact hp.follows
    · rw [hsame.task_eq]
      exact hstate
    · unfold did
      rw [hsame.task_eq, hsame.deeds_eq]
      exact hp.deeds
  · rw [hafter]
    exact hp.step htook hs

/-- A session in its shutdown refuses whatever is sent to it. -/
theorem Parting.refuses (hp : Parting e c c') (text : String) :
    (c'.home.sessions.send c'.task.session text).2 = false := by
  obtain ⟨s, hs, hstate⟩ := hp.session
  have hrefuses : s.state ≠ .accepting := by
    rw [hstate]
    split <;> nofun
  rw [Sessions.send_of_get? text hs, Session.send_of_refusing text hrefuses]

theorem Parting.refusing (hp : Parting e c c') : c'.Refusing := by
  obtain ⟨s, hs, hstate⟩ := hp.session
  refine ⟨s, hs, ?_, fun hlooks => by cases hp.follows.shut.2.symm.trans hlooks⟩
  rw [hstate]
  split <;> nofun

/-! ## How long it takes -/

/-- Does the clock pass no deadline of the task before the task takes a step, and has each stage of
the shutdown `stage` of time? -/
def Prompt (stage : Nat) (c : Course) (happenings : List Happening) : Prop :=
  ∀ before m after, happenings = before ++ .step m :: after → m.deadlines.shutdownStage = stage ∧
    ∀ deadline, (c.run before).task.deadline? = some deadline → m.now ≤ deadline

/-- Is the deadline of a shutdown that began at `began` within its time? -/
def InTime (e : Exit) (began stage : Nat) (c : Course) : Prop :=
  match c.task.stage with
  | .closing deadline => deadline ≤ began + stage
  | .leaving deadline => deadline ≤ began + e.shutdownTime stage
  | _ => True

variable {began stage : Nat}

theorem Prompt.nil (stage : Nat) (c : Course) : Prompt stage c [] := fun _ _ _ h => by simp at h

theorem Prompt.cons {a : Happening} {rest : List Happening}
    (ha : ∀ m, a = .step m → m.deadlines.shutdownStage = stage ∧
      ∀ deadline, c.task.deadline? = some deadline → m.now ≤ deadline)
    (hrest : Prompt stage (c.perform a) rest) : Prompt stage c (a :: rest) := by
  intro before m after hsplit
  cases before with
  | nil =>
    obtain ⟨rfl, -⟩ := List.cons.inj hsplit
    exact ha m rfl
  | cons b before =>
    obtain ⟨rfl, htail⟩ := List.cons.inj hsplit
    exact hrest before m after htail

/-- The task has its turn when its deadline is due. -/
theorem Prompt.cons_due {rest : List Happening} (hdeadline : c.task.deadline? = some m.now)
    (hstage : m.deadlines.shutdownStage = stage)
    (hrest : Prompt stage (c.perform (.step m)) rest) : Prompt stage c (.step m :: rest) := by
  refine .cons ?_ hrest
  rintro _ ⟨⟩
  exact ⟨hstage, fun deadline h => (Option.some.inj (hdeadline.symm.trans h)).le⟩

theorem InTime.step (ht : InTime e began stage c) (htook : c.task.Took m c.home c.pipe s taken)
    (hfollows : c.task.stage.Follows e) (hstage : m.deadlines.shutdownStage = stage)
    (hprompt : ∀ deadline, c.task.deadline? = some deadline → m.now ≤ deadline) :
    InTime e began stage (c.after taken) := by
  unfold InTime at ht ⊢
  show match taken.task.stage with
    | .closing deadline => _
    | .leaving deadline => _
    | _ => _
  rcases htook.of_follows hfollows with
    ⟨deadline, hclosing, -, -, hnext⟩ | ⟨deadline, p', outcome, -, rfl⟩
  · have hnow : m.now ≤ deadline := hprompt deadline (by unfold Task.deadline?; rw [hclosing])
    rw [hclosing] at ht hfollows
    rcases hnext with h | h <;> rw [h]
    · exact ht
    · show m.now + m.deadlines.shutdownStage ≤ began + e.shutdownTime stage
      have htime : e.shutdownTime stage = 2 * stage := by
        cases e <;> first | rfl | exact absurd rfl hfollows
      dsimp only at ht
      omega
  · trivial

theorem InTime.perform (ht : InTime e began stage c) (hfollows : c.task.stage.Follows e)
    {a : Happening}
    (hprompt : ∀ m, a = .step m → m.deadlines.shutdownStage = stage ∧
      ∀ deadline, c.task.deadline? = some deadline → m.now ≤ deadline) :
    InTime e began stage (c.perform a) := by
  rcases perform_cases c a with ⟨htask, -⟩ | ⟨m, s, taken, rfl, -, htook, hafter⟩
  · unfold InTime
    rw [htask]
    exact ht
  · rw [hafter]
    obtain ⟨hstage, hnow⟩ := hprompt m rfl
    exact ht.step htook hfollows hstage hnow

/-- Everything that happens to a session in its shutdown leaves it there. -/
theorem Parting.run (hp : Parting e c c') (happenings : List Happening) :
    Parting e c (c'.run happenings) :=
  run_invariant (Q := fun _ => True) (fun _ a hp _ => hp.perform a) hp happenings fun _ _ => trivial

theorem InTime.run (ht : InTime e began stage c') (hp : Parting e c c')
    {happenings : List Happening} (hprompt : Prompt stage c' happenings) :
    ∀ before after, happenings = before ++ after → InTime e began stage (c'.run before) := by
  intro before
  induction before using List.reverseRecOn with
  | nil => exact fun _ _ => ht
  | append_singleton before a ih =>
    intro after hsplit
    rw [List.append_assoc] at hsplit
    rw [run_append]
    refine (ih _ hsplit).perform (hp.run before).follows fun m hstep => ?_
    subst hstep
    exact hprompt before m after hsplit

/-- A task that has not ended takes its step in time. -/
theorem InTime.now_le (ht : InTime e began stage c) (hfollows : c.task.stage.Follows e)
    (hended : c.task.stage ≠ .ended)
    (hprompt : ∀ deadline, c.task.deadline? = some deadline → m.now ≤ deadline) :
    m.now ≤ began + e.shutdownTime stage := by
  unfold InTime at ht
  unfold Task.deadline? at hprompt
  have hle := e.stage_le_shutdownTime stage
  cases hstage : c.task.stage with
  | closing deadline =>
    rw [hstage] at ht hprompt
    have hnow := hprompt deadline rfl
    dsimp only at ht
    omega
  | leaving deadline =>
    rw [hstage] at ht hprompt
    have hnow := hprompt deadline rfl
    dsimp only at ht
    omega
  | ended => exact absurd hstage hended
  | _ =>
    rw [hstage] at hfollows
    cases hfollows

theorem inTime_begins (hs : c.session? = some s) (hstage : c.task.stage = .left e) (m : Moment) :
    InTime e m.now m.deadlines.shutdownStage (c.perform (.step m)) := by
  rw [perform_of_left hs hstage]
  rcases Task.retire_cases m c.home c.pipe c.task e with heq | ⟨close, he, hopen⟩
  · rw [heq]
    exact Nat.add_le_add_left (e.stage_le_shutdownTime _) _
  · rw [Task.retire_of_open he hopen]
    exact Nat.le_refl _

/-- Whatever ended the open state of a session, and whatever happens from then on: once its task has
taken its next step, at `m`, the session refuses every text. That step attempts a close frame,
unless the connection is broken, and hands it to the framing if that takes it; no other is
attempted. Then the connection is asked to shut down, whatever came of the frame, and when that is
over the session is closed. If the clock passes no deadline before the task has its turn, the
shutdown takes one stage's time at most on a broken connection, and two stages' time else. And it
comes to its end on every schedule. -/
theorem teardown_completes (c : Course) (s : Session) (e : Exit) (hs : c.session? = some s)
    (hstage : c.task.stage = .left e) (m : Moment) (later : List Happening) :
    let c₁ := c.perform (.step m)
    let c' := c₁.run later
    (∀ text, (c'.home.sessions.send c'.task.session text).2 = false) ∧ c'.accepted = c.accepted ∧
    c₁.task.wire = (e.farewell.bind c.task.wire.close?).getD c.task.wire ∧
    (∃ (moves : Nat) (outcome : Option (Poll Bool)), c'.did = c.did ++ .parted e.farewell ::
      (List.replicate moves .moved ++ (outcome.map Deed.shut).toList) ∧
        (c'.task.stage = .ended ↔ outcome.isSome = true)) ∧
    (∃ s', c'.session? = some s' ∧
      s'.state = if c'.task.stage = .ended then .closed else .closing) ∧
    (Prompt m.deadlines.shutdownStage c₁ later → ∀ before m' after,
      later = before ++ .step m' :: after → (c₁.run before).task.stage ≠ .ended →
        m'.now ≤ m.now + e.shutdownTime m.deadlines.shutdownStage) ∧
    ∀ schedule, c'.Fair schedule → ∃ n, (c'.along schedule n).task.stage = .ended := by
  intro c₁ c'
  have hbegun : Parting e c c₁ := parting_begins hs hstage m
  have hp : Parting e c c' := hbegun.run later
  refine ⟨hp.refuses, hp.accepted_eq, ?_, hp.deeds, hp.session, ?_, fun schedule hfair => ?_⟩
  · show (c.perform (.step m)).task.wire = _
    rw [perform_of_left hs hstage]
    show (c.task.retire m c.home c.pipe e).task.wire = _
    unfold Task.retire
    cases e.farewell.bind c.task.wire.close? <;> rfl
  · intro hprompt before m' after hsplit hended
    have ht := (inTime_begins hs hstage m).run hbegun hprompt before _ hsplit
    exact ht.now_le (hbegun.run before).follows hended (hprompt before m' after hsplit).2
  · refine hp.refusing.comes_to_end hfair fun n hopen => ?_
    cases (hp.run _).follows.shut.1.symm.trans hopen

/-- A connection whose client takes nothing, and that does not shut down. -/
def deadPipe : Pipe := { room := some 0, faults := { closing := .stalls } }

/-- What happens after a session has left: a text comes, and each deadline. -/
def afterLeaving : List Happening :=
  [.send "x", .step { stop := true, now := 6000 }, .step { stop := true, now := 12000 }]

/-- A session that leaves for the signal. When its client takes nothing and the connection does not
shut down, it is closed after two stages' time; when its client reads, the close frame is all that
is on the wire. -/
theorem signalled_completes :
    (let c := (start {} deadPipe [] ⟨"eve", .control⟩).run (lateSteps 3)
      let c' := (c.perform (.step { stop := true, now := 0 })).run afterLeaving
      c.task.stage = .left (.close .goingAway) ∧ c'.task.stage = .ended ∧
        c'.accepted = c.accepted ∧ (∃ s, c'.session? = some s ∧ s.state = .closed) ∧
        12000 ≤ 0 + (Exit.close .goingAway).shutdownTime 6000) ∧
    (let c := (start {} {} [] ⟨"eve", .control⟩).run (lateSteps 3)
      let c₁ := c.perform (.step { stop := true, now := 0 })
      let c' := c₁.run afterLeaving
      c.task.stage = .left (.close .goingAway) ∧ c'.task.stage = .ended ∧
        c'.accepted = c.accepted ∧ (∃ s, c'.session? = some s ∧ s.state = .closed) ∧
        c₁.task.wire.out = [0x88, 22, 0x03, 0xE9] ++ utf8 "server shutting down" ∧
        c'.written = [0x88, 22, 0x03, 0xE9] ++ utf8 "server shutting down") := by
  constructor
  · intro c c'
    have hs : c.session? = some { owner := ⟨"eve", .control⟩ } := by decide +kernel
    have hstage : c.task.stage = .left (.close .goingAway) := by decide +kernel
    have hended : c'.task.stage = .ended := by decide +kernel
    obtain ⟨-, haccepted, -, -, hsession, htime, -⟩ :=
      teardown_completes c _ _ hs hstage { stop := true, now := 0 } afterLeaving
    have hprompt : Prompt 6000 (c.perform (.step { stop := true, now := 0 })) afterLeaving :=
      .cons nofun (.cons_due (by decide +kernel) rfl (.cons_due (by decide +kernel) rfl (.nil _ _)))
    refine ⟨hstage, hended, haccepted, ?_, ?_⟩
    · obtain ⟨s, hs, hstate⟩ := hsession
      exact ⟨s, hs, hstate.trans (if_pos hended)⟩
    · exact htime hprompt (afterLeaving.take 2) _ [] rfl (by decide +kernel)
  · intro c c₁ c'
    have hs : c.session? = some { owner := ⟨"eve", .control⟩ } := by decide +kernel
    have hstage : c.task.stage = .left (.close .goingAway) := by decide +kernel
    have hended : c'.task.stage = .ended := by decide +kernel
    obtain ⟨-, haccepted, hwire, -, ⟨s, hs', hstate⟩, -⟩ :=
      teardown_completes c _ _ hs hstage { stop := true, now := 0 } afterLeaving
    refine ⟨hstage, hended, haccepted, ⟨s, hs', hstate.trans (if_pos hended)⟩, ?_, ?_⟩
    · rw [hwire]
      decide +kernel
    · decide +kernel

end Course

end DeviceGateway.Channel
