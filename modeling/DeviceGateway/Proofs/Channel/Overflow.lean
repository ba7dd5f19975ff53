import DeviceGateway.Proofs.Channel.Due
import DeviceGateway.Proofs.Channel.Overlap
import DeviceGateway.Proofs.Channel.Schedule

/-
  A full queue ends its session. When a send has found the queue full, the session accepts nothing
  any more, and its task comes to look at the state before it looks into the queue or listens for a
  second time (`Spilt`). So it writes one more text or handles one more message, if any, and leaves
  for the full queue unless that text or that message ends the session (`left_cases`). And the code
  of a full queue is sent for no other reason (`found_or_roomy`). Here a send is one step. One that
  overlaps with others may find the queue full and let more texts in before it says so, and a task
  that has looked into the queue before may find the signal first (`fullQueue_unheeded`).
-/

open DeviceGateway.Stream (Pipe)

namespace DeviceGateway.Channel

namespace Session

variable {s : Session}

/-- Does a send find the queue full? -/
def Overflows (s : Session) : Prop :=
  s.state = .accepting ∧ s.listening = true ∧ outboundQueueLimit ≤ s.queue.length

theorem send_of_overflows (h : s.Overflows) (text : String) :
    s.send text = ({ s with state := .closing }, false) := by
  obtain ⟨hstate, hlist, hfull⟩ := h
  simp [send, hstate, hlist, hfull]

/-- Only a send that finds the queue full makes a session stop accepting. -/
theorem overflows_of_send {text : String} (hs : s.state = .accepting)
    (h : (s.send text).1.state ≠ .accepting) : s.Overflows := by
  unfold send at h
  rw [if_neg (not_not_intro hs)] at h
  split at h
  · exact absurd hs h
  · next hlist =>
    split at h
    · next hfull => exact ⟨hs, by simpa using hlist, hfull⟩
    · exact absurd hs h

theorem sendAll_append (s : Session) (texts more : List String) :
    s.sendAll (texts ++ more) = (((s.sendAll texts).1.sendAll more).1,
      (s.sendAll texts).2 ++ ((s.sendAll texts).1.sendAll more).2) := by
  induction texts generalizing s with
  | nil => rfl
  | cons text texts ih =>
    simp only [List.cons_append, sendAll, ih]
    split <;> rfl

/-- A text that finds the queue full is refused, and so are all that come after it. -/
theorem sendAll_of_overflows {before : List String} (h : (s.sendAll before).1.Overflows)
    (text : String) (after : List String) :
    (s.sendAll (before ++ text :: after)).1.state ≠ .accepting ∧
      (s.sendAll (before ++ text :: after)).2 = (s.sendAll before).2 := by
  have hclosing : ({ (s.sendAll before).1 with state := .closing } : Session).state ≠ .accepting :=
    nofun
  rw [sendAll_append]
  simp only [sendAll, send_of_overflows h, sendAll_of_refusing after hclosing]
  exact ⟨hclosing, List.append_nil _⟩

/-- Of texts sent in turn to a session that stops accepting, one finds the queue full. -/
theorem overflows_of_sendAll {texts : List String} (hs : s.state = .accepting)
    (h : (s.sendAll texts).1.state ≠ .accepting) :
    ∃ before text after, texts = before ++ text :: after ∧ (s.sendAll before).1.Overflows := by
  induction texts generalizing s with
  | nil => exact absurd hs h
  | cons text texts ih =>
    by_cases hnext : (s.send text).1.state = .accepting
    · obtain ⟨before, text', after, rfl, hfull⟩ := ih hnext h
      exact ⟨text :: before, text', after, rfl, hfull⟩
    · exact ⟨[], text, texts, rfl, overflows_of_send hs hnext⟩

end Session

namespace Course

variable {c : Course} {m : Moment} {s : Session} {taken : Taken} {a : Happening} {e : Exit}
  {gained : List String}

/-! ## The queue is found full -/

/-- Does a send find the session's queue full in this happening? The session accepts `gained` of the
texts that come before it in the same happening. -/
inductive FindsFull (c : Course) : Happening → List String → Prop
  /-- The send of another task. -/
  | sent {s : Session} (text : String) (hs : c.session? = some s) (hfull : s.Overflows) :
      FindsFull c (.send text) []
  /-- The answer of the session's own task. -/
  | answered {s : Session} {text : String} (m : Moment) (hs : c.session? = some s)
      (hstage : c.task.stage = .answering text) (hfull : s.Overflows) : FindsFull c (.step m) []
  /-- One of the texts that a handler of the session's own task sends. -/
  | handled {s : Session} {m : Moment} {taken : Taken} {message : Message} {before : List String}
      {text : String} {after : List String} (hs : c.session? = some s)
      (hstep : c.task.step m c.home c.pipe = some taken) (hdeed : taken.deed = .handled message)
      (hsent : taken.home.sessions.get? c.task.session =
        some (s.sendAll (before ++ text :: after)).1)
      (hfull : (s.sendAll before).1.Overflows) :
      FindsFull c (.step m) (s.sendAll before).2

/-- A message is handled by a task that listens, and takes its eyes off the queue. -/
theorem looks_of_handled (htook : c.task.Took m c.home c.pipe s taken) {message : Message}
    (hdeed : taken.deed = .handled message) : taken.task.stage.looks = false := by
  cases htook with
  | handled _ _ _ =>
    unfold Task.handle at hdeed ⊢
    split
    · split <;> rfl
    all_goals rfl
  | _ => cases hdeed

/-- From then on the session accepts nothing. -/
theorem FindsFull.refusing (h : c.FindsFull a gained) :
    (c.perform a).Refusing ∧ (c.perform a).accepted = c.accepted ++ gained := by
  cases h with
  | @sent s text hs hfull =>
    have hget := Sessions.get?_modify_self (fun _ => (s.send text).1) hs
    rw [Session.send_of_overflows hfull] at hget
    unfold perform
    dsimp only
    rw [Sessions.send_of_get? text hs, Session.send_of_overflows hfull]
    refine ⟨⟨_, hget, nofun, fun _ hempty => ?_⟩, rfl⟩
    have hlimit := hfull.2.2
    rw [show s.queue = [] from hempty] at hlimit
    exact absurd hlimit (by decide)
  | @answered s text m hs hstage hfull =>
    have hget := Sessions.get?_modify_self (fun _ => (s.send text).1) hs
    rw [Session.send_of_overflows hfull] at hget
    rw [perform_step (Task.step_answers hs hstage)]
    unfold Task.answer
    rw [Sessions.send_of_get? text hs, Session.send_of_overflows hfull]
    exact ⟨refusing_of_away hget nofun rfl, rfl⟩
  | @handled s m taken message before text after hs hstep hdeed hsent hfull =>
    have htook := Task.step_took hs hstep
    obtain ⟨hstate, haccepted⟩ := Session.sendAll_of_overflows hfull text after
    have haway := looks_of_handled htook hdeed
    rw [perform_step hstep]
    refine ⟨refusing_of_away (htook.session_eq ▸ hsent) hstate haway, ?_⟩
    show c.accepted ++ c.gained taken = _
    rw [gained_handled hs hsent hdeed, haccepted]

/-! ## What is still done -/

/-- What the task has done since the queue was found full in `c₁`, and what it may still do: before
it looks into the queue again, or for another message, it looks at the state. -/
structure Spilt (c₁ c : Course) (new : List (Home × Deed)) : Prop where
  refusing : c.Refusing
  accepted_eq : c.accepted = c₁.accepted
  deeds_eq : c.deeds = c₁.deeds ++ new
  few : (wroteOf new).length + (handledOf new).length + c.task.stage.looks.toNat ≤ 1
  exits : (exitsOf new).length + c.task.stage.isOpen.toNat = c₁.task.stage.isOpen.toNat
  listening : c.task.stage = .listening → c₁.task.stage = .listening

theorem spilt_nil (hc : c.Refusing) : c.Spilt c [] :=
  ⟨hc, rfl, (List.append_nil _).symm, by simpa [wroteOf, handledOf] using Bool.toNat_le _,
    Nat.zero_add _, id⟩

/-- What a step spends of it. -/
theorem spends (hstate : s.state ≠ .accepting) (hqueue : c.task.stage.looks = true → s.queue ≠ [])
    (htook : c.task.Took m c.home c.pipe s taken) :
    (wroteOf [(c.home, taken.deed)]).length + (handledOf [(c.home, taken.deed)]).length +
      taken.task.stage.looks.toNat ≤ c.task.stage.looks.toNat ∧
    (exitsOf [(c.home, taken.deed)]).length + taken.task.stage.isOpen.toNat =
      c.task.stage.isOpen.toNat ∧
    (taken.task.stage = .listening → c.task.stage = .listening) := by
  have hleaves : ∀ {h p t e}, c.task.stage.isOpen = true →
      (exitsOf [(c.home, (Task.leave h p t e).deed)]).length + 0 = c.task.stage.isOpen.toNat :=
    fun hopen => by rw [hopen]; rfl
  cases htook with
  | checked _ haccepts => exact absurd haccepts hstate
  | turned hstage hempty _ => exact absurd hempty (hqueue (by rw [hstage]; rfl))
  | overflow hstage | dropped hstage | lost hstage | faulted hstage | hungUp hstage
  | unreadable hstage | stopped hstage | interrupted hstage | stalled hstage =>
    exact ⟨Nat.zero_le _, hleaves (by rw [hstage]; rfl), nofun⟩
  | handled hstage =>
    rw [hstage]
    unfold Task.handle
    split
    · split
      · exact ⟨Nat.zero_le _, rfl, nofun⟩
      · exact ⟨Nat.le_refl _, rfl, nofun⟩
    · exact ⟨Nat.zero_le _, rfl, nofun⟩
    · exact ⟨Nat.le_refl _, rfl, nofun⟩
    · exact ⟨Nat.le_refl _, rfl, nofun⟩
    · exact ⟨Nat.zero_le _, rfl, nofun⟩
  | slept hstage =>
    rw [hstage]
    exact ⟨Nat.le_refl _, rfl, fun _ => rfl⟩
  | wrote hstage | written hstage | answered hstage | closed hstage | finished hstage =>
    rw [hstage]
    exact ⟨Nat.le_refl _, rfl, nofun⟩
  | flushed | read | pushed => exact ⟨(Nat.zero_add _).le, Nat.zero_add _, id⟩
  | @retired e hstage =>
    rcases Task.retire_cases m c.home c.pipe c.task e with heq | ⟨close, he, hopen⟩
    · rw [heq, hstage]
      exact ⟨Nat.le_refl _, rfl, nofun⟩
    · rw [Task.retire_of_open he hopen, hstage]
      exact ⟨Nat.le_refl _, rfl, nofun⟩

/-- A session that accepts no more gains nothing by the steps of its task either. -/
theorem gained_of_refusing (hs : c.session? = some s) (hstate : s.state ≠ .accepting)
    (hm : c.task.stage = .listening → m.commands.SendsOnly)
    (htook : c.task.Took m c.home c.pipe s taken) : c.gained taken = [] := by
  cases htook with
  | @handled receiver message hstage _ _ =>
    let t := { c.task with wire := { c.task.wire with receiver } }
    obtain ⟨texts, hsent⟩ := Task.handle_sends (t := t) hs (hm hstage) c.pipe s.owner message
    rcases Task.handle_deed m c.home c.pipe t s.owner message with hdeed | ⟨e, hdeed, -⟩
    · rw [gained_handled hs hsent hdeed, Session.sendAll_of_refusing texts hstate]
    · unfold gained
      rw [hdeed]
  | @answered text _ =>
    unfold Task.answer
    rw [Sessions.send_of_get? text hs, Session.send_of_refusing text hstate]
    rfl
  | _ => rfl

/-- Every step of a task whose session overflowed. -/
theorem Spilt.after {c₁ : Course} {new : List (Home × Deed)} (hc : c₁.Spilt c new)
    (hs : c.session? = some s) (hm : m.commands.SendsOnly)
    (htook : c.task.Took m c.home c.pipe s taken) :
    c₁.Spilt (c.after taken) (new ++ [(c.home, taken.deed)]) := by
  obtain ⟨s', hs', hstate, hqueue⟩ := hc.refusing
  cases hs'.symm.trans hs
  obtain ⟨hfew, hexits, hlistening⟩ := spends hstate hqueue htook
  refine ⟨refusing_after hs hstate hqueue (fun _ => hm) htook, ?_, ?_, ?_, ?_, fun h => ?_⟩
  · show c.accepted ++ c.gained taken = _
    rw [gained_of_refusing hs hstate (fun _ => hm) htook, List.append_nil, hc.accepted_eq]
  · show c.deeds ++ [(c.home, taken.deed)] = _
    rw [hc.deeds_eq, List.append_assoc]
  · have hbefore := hc.few
    rw [wroteOf_append, handledOf_append, List.length_append, List.length_append]
    show _ + _ + taken.task.stage.looks.toNat ≤ 1
    omega
  · have hbefore := hc.exits
    rw [exitsOf_append, List.length_append]
    show _ + taken.task.stage.isOpen.toNat = _
    omega
  · exact hc.listening (hlistening h)

/-- What happens outside the task takes nothing back. -/
theorem Spilt.outside {c₁ c' : Course} {new : List (Home × Deed)} (hc : c₁.Spilt c new)
    (hrefusing : c'.Refusing) (htask : c'.task = c.task) (haccepted : c'.accepted = c.accepted)
    (hdeeds : c'.deeds = c.deeds) : c₁.Spilt c' new := by
  refine ⟨hrefusing, haccepted.trans hc.accepted_eq, hdeeds.trans hc.deeds_eq, ?_, ?_, ?_⟩
  · rw [htask]
    exact hc.few
  · rw [htask]
    exact hc.exits
  · rw [htask]
    exact hc.listening

/-! ## Why the open state ends -/

/-- Does a task that listens meet with something that ends the channel by itself: a message, a
fault, or the end of the connection? -/
inductive Meets (c : Course) : Exit → Prop
  | said {receiver : Receiver} {message : Message} {e : Exit}
      (hmessage : c.task.wire.receiver.message = .ok (receiver, some message))
      (hexit : (Inbound.message message).exit? = some e) : Meets c e
  | fault {f : FrameFault} (hmessage : c.task.wire.receiver.message = .error f) : Meets c f.exit
  | hungUp {p : Pipe} (hread : c.pipe.read c.pipe.incoming.length = (p, .ready .ended)) :
      Meets c (FrameFault.exit .ended)
  | unreadable {p : Pipe} (hread : c.pipe.read c.pipe.incoming.length = (p, .ready .failed)) :
      Meets c .broken
  | unwritable (hfailed : (c.task.wire.flush c.pipe).2.2 = .failed) : Meets c .broken

/-- Does something else than a full queue end the open state, at the moment `m`? -/
inductive Excuse (c : Course) (m : Moment) : Exit → Prop
  /-- The write of a text fails. -/
  | failed {deadline : Nat} (hstage : c.task.stage = .writing deadline)
      (hfailed : (c.task.wire.flush c.pipe).2.2 = .failed) : Excuse c m .broken
  /-- It stalls past its deadline. -/
  | stalled {deadline : Nat} (hstage : c.task.stage = .writing deadline)
      (hblocked : (c.task.wire.flush c.pipe).2.2 = .blocked) (hdue : deadline ≤ m.now) :
      Excuse c m .broken
  /-- It meets the signal, be it before anything of the text is written. -/
  | signalled (hstop : m.stop = true) (hwrites : (∃ deadline, c.task.stage = .writing deadline) ∨
      (c.task.stage = .waiting ∧ c.queue ≠ [])) :
      Excuse c m (.close ⟨1001, "server shutting down"⟩)
  /-- What the client says last ends the channel. -/
  | met {e : Exit} (hstage : c.task.stage = .listening) (hmeets : c.Meets e) : Excuse c m e

theorem exit_of_handle {t : Task} {owner : Principal} {message : Message} {h : Home} {p : Pipe}
    (hdeed : (t.handle m h p owner message).deed = .left e) :
    (Inbound.message message).exit? = some e := by
  unfold Task.handle at hdeed
  split at hdeed
  · split at hdeed
    · next v hparse =>
      cases hdeed
      unfold Inbound.exit?
      rw [Inbound.verdict_of_violation hparse]
    · cases hdeed
  · cases hdeed
    rfl
  · cases hdeed
  · cases hdeed
  · cases hdeed
    rfl

/-- A session leaves its open state because it accepts no more, because something else ends it, or
because the task has looked into the queue and for a message and finds nothing but the signal. -/
theorem left_cases (hs : c.session? = some s) (htook : c.task.Took m c.home c.pipe s taken)
    (hleft : taken.deed = .left e) :
    (s.state ≠ .accepting ∧ c.task.stage.isOpen = true ∧ e = .close .overflow) ∨ c.Excuse m e ∨
      (c.task.stage = .listening ∧ m.stop = true ∧ e = .close .goingAway) := by
  cases htook with
  | overflow hstage hstate =>
    cases hleft
    exact Or.inl ⟨hstate, by rw [hstage]; rfl, rfl⟩
  | @dropped text rest hstage hqueue hstop =>
    cases hleft
    refine Or.inr (Or.inl (.signalled hstop (Or.inr ⟨hstage, ?_⟩)))
    unfold queue
    rw [queueOf_of_get? hs, hqueue]
    exact List.cons_ne_nil _ _
  | interrupted hstage hstop =>
    cases hleft
    exact Or.inr (Or.inl (.signalled hstop (Or.inl ⟨_, hstage⟩)))
  | stalled hstage _ hundone hdue =>
    cases hleft
    cases hflush : (c.task.wire.flush c.pipe).2.2 with
    | done => exact absurd hflush hundone
    | blocked => exact Or.inr (Or.inl (.stalled hstage hflush (hdue hflush)))
    | failed => exact Or.inr (Or.inl (.failed hstage hflush))
  | lost hstage hfailed =>
    cases hleft
    exact Or.inr (Or.inl (.met hstage (.unwritable hfailed)))
  | faulted hstage _ hmessage =>
    cases hleft
    exact Or.inr (Or.inl (.met hstage (.fault hmessage)))
  | handled hstage _ hmessage =>
    exact Or.inr (Or.inl (.met hstage (.said hmessage (exit_of_handle hleft))))
  | hungUp hstage _ _ hread =>
    cases hleft
    exact Or.inr (Or.inl (.met hstage (.hungUp hread)))
  | unreadable hstage _ _ hread =>
    cases hleft
    exact Or.inr (Or.inl (.met hstage (.unreadable hread)))
  | stopped hstage _ _ _ hstop =>
    cases hleft
    exact Or.inr (Or.inr ⟨hstage, hstop, rfl⟩)
  | _ => cases hleft

theorem code_of_refused (why : String) : (Close.refused why).code ≠ Close.overflow.code := by
  show 1007 ≠ 1008
  decide

/-- What a client says ends its channel with the code of a message that is refused, if with any. -/
theorem code_of_exit {i : Inbound} {k : Close} (h : i.exit? = some (.close k)) :
    k.code ≠ Close.overflow.code := by
  rcases Inbound.exit_cases h with ⟨-, he⟩ | ⟨v, he⟩ | ⟨f, he⟩
  · cases he
  · cases he
    exact code_of_refused v.message
  · cases he
    exact code_of_refused f.message

/-- No other end of a session has the code of a full queue. -/
theorem Excuse.code_ne {k : Close} (h : c.Excuse m (.close k)) : k.code ≠ Close.overflow.code := by
  cases h with
  | signalled => decide
  | met _ hmeets =>
    cases hmeets with
    | said _ hexit => exact code_of_exit hexit
    | fault | hungUp => exact code_of_refused _

/-- A session leaves with the code of a full queue only when it accepts no more. -/
theorem refuses_of_code (hs : c.session? = some s) (htook : c.task.Took m c.home c.pipe s taken)
    {k : Close} (hleft : taken.deed = .left (.close k)) (hcode : k.code = Close.overflow.code) :
    s.state ≠ .accepting ∧ c.task.stage.isOpen = true := by
  rcases left_cases hs htook hleft with ⟨hstate, hopen, -⟩ | hexcuse | ⟨-, -, he⟩
  · exact ⟨hstate, hopen⟩
  · exact absurd hcode hexcuse.code_ne
  · cases he
    exact absurd hcode (by decide)

/-! ## The write that is under way -/

/-- Is the last text that was written in a run begun in a step at the moment `m`? -/
def BeganAt (c₀ : Course) (happenings : List Happening) (m : Moment) : Prop :=
  ∃ before after text, happenings = before ++ .step m :: after ∧
    (c₀.run (before ++ [.step m])).wrote = (c₀.run before).wrote ++ [text] ∧
    (c₀.run happenings).wrote = (c₀.run before).wrote ++ [text]

/-- A write goes on, or begins. -/
theorem writing_after {deadline : Nat} (htook : c.task.Took m c.home c.pipe s taken)
    (hwriting : taken.task.stage = .writing deadline) :
    (c.task.stage = .writing deadline ∧ (c.after taken).wrote = c.wrote) ∨
    ∃ text, (c.after taken).wrote = c.wrote ++ [text] ∧
      deadline = m.now + m.deadlines.channelWrite := by
  rw [wrote_after]
  cases htook with
  | wrote =>
    cases hwriting
    exact Or.inr ⟨_, rfl, rfl⟩
  | pushed => exact Or.inl ⟨hwriting, List.append_nil _⟩
  | flushed hstage | read hstage => cases hstage.symm.trans hwriting
  | handled =>
    unfold Task.handle at hwriting
    split at hwriting
    · split at hwriting <;> cases hwriting
    all_goals cases hwriting
  | @retired e _ =>
    have hshut := Task.retire_shut m c.home c.pipe c.task e
    rw [hwriting] at hshut
    cases hshut
  | _ => cases hwriting

theorem BeganAt.extend {c₀ : Course} {happenings : List Happening}
    (h : c₀.BeganAt happenings m)
    (hwrote : (c₀.run (happenings ++ [a])).wrote = (c₀.run happenings).wrote) :
    c₀.BeganAt (happenings ++ [a]) m := by
  obtain ⟨before, after, text, rfl, hbegan, hlast⟩ := h
  exact ⟨before, after ++ [a], text, by simp, hbegan, hwrote.trans hlast⟩

/-- A write that is under way has the deadline of the moment at which it began. -/
theorem began_run {c₀ : Course} (hc₀ : ∀ deadline, c₀.task.stage ≠ .writing deadline)
    (happenings : List Happening) : ∀ deadline, (c₀.run happenings).task.stage = .writing deadline →
      ∃ began, c₀.BeganAt happenings began ∧
        deadline = began.now + began.deadlines.channelWrite := by
  induction happenings using List.reverseRecOn with
  | nil => exact fun deadline h => absurd h (hc₀ deadline)
  | append_singleton happenings a ih =>
    intro deadline hwriting
    have hrun : c₀.run (happenings ++ [a]) = (c₀.run happenings).perform a := run_append c₀ _ _
    rw [hrun] at hwriting
    rcases perform_cases (c₀.run happenings) a with
      ⟨htask, hdeeds⟩ | ⟨m, s, taken, rfl, hs, htook, hafter⟩
    · rw [htask] at hwriting
      obtain ⟨began, hbegan, hdeadline⟩ := ih deadline hwriting
      refine ⟨began, hbegan.extend ?_, hdeadline⟩
      rw [hrun]
      exact congrArg wroteOf hdeeds
    · rw [hafter] at hwriting hrun
      rcases writing_after htook hwriting with ⟨hbefore, hwrote⟩ | ⟨text, hwrote, hdeadline⟩
      · obtain ⟨began, hbegan, hdeadline⟩ := ih deadline hbefore
        refine ⟨began, hbegan.extend ?_, hdeadline⟩
        rw [hrun, hwrote]
      · have hlast : (c₀.run (happenings ++ [.step m])).wrote =
            (c₀.run happenings).wrote ++ [text] := by
          rw [hrun, hwrote]
        exact ⟨m, ⟨happenings, [], text, rfl, hlast, hlast⟩, hdeadline⟩

/-! ## From a full queue to the end -/

/-- Nothing that happens makes a session accept a text when it accepts no more. -/
theorem Refusing.accepted_eq (hc : c.Refusing) (ha : a.Tame) :
    (c.perform a).accepted = c.accepted := by
  obtain ⟨s, hs, hstate, -⟩ := hc
  rcases perform_of_refusing hs hstate a with hsame | ⟨m, taken, rfl, htook, hafter⟩
  · exact hsame.accepted_eq
  · rw [hafter]
    show c.accepted ++ c.gained taken = c.accepted
    rw [gained_of_refusing hs hstate (fun _ => ha) htook, List.append_nil]

/-- The reason for which a session whose queue was found full in `c₁` leaves: the full queue, or one
of the excuses. A task that was about to look for a message then may find the signal instead. -/
def Leaves (c₁ : Course) (later : List Happening) (e : Exit) : Prop :=
  e = .close ⟨1008, "send queue overflow"⟩ ∨
    ∃ before m after, later = before ++ .step m :: after ∧ ((c₁.run before).Excuse m e ∨
      (c₁.task.stage = .listening ∧ m.stop = true ∧ e = .close ⟨1001, "server shutting down"⟩))

theorem Leaves.extend {c₁ : Course} {later : List Happening} (h : c₁.Leaves later e)
    (a : Happening) : c₁.Leaves (later ++ [a]) e := by
  refine h.imp_right ?_
  rintro ⟨before, m, after, rfl, hexcuse⟩
  exact ⟨before, m, after ++ [a], by simp, hexcuse⟩

theorem exitsOf_singleton {h : Home} {d : Deed} (he : e ∈ exitsOf [(h, d)]) : d = .left e := by
  unfold exitsOf at he
  cases d <;> simp at he
  rw [he]

/-- What comes to pass after a queue was found full in `c₁`. -/
theorem spilt_run {c₁ : Course} (hc : c₁.Refusing) (later : List Happening)
    (htame : ∀ a ∈ later, a.Tame) : ∃ new, c₁.Spilt (c₁.run later) new ∧
      ∀ e ∈ exitsOf new, c₁.Leaves later e := by
  induction later using List.reverseRecOn with
  | nil => exact ⟨[], spilt_nil hc, nofun⟩
  | append_singleton later a ih =>
    obtain ⟨new, hspilt, hexits⟩ := ih fun b hb => htame b (List.mem_append_left _ hb)
    have ha : a.Tame := htame a (List.mem_append_right _ List.mem_cons_self)
    have hrun : c₁.run (later ++ [a]) = (c₁.run later).perform a := run_append c₁ _ _
    rw [hrun]
    rcases perform_cases (c₁.run later) a with
      ⟨htask, hdeeds⟩ | ⟨m, s, taken, rfl, hs, htook, hafter⟩
    · exact ⟨new, hspilt.outside (hspilt.refusing.perform fun _ => ha).1 htask
        (hspilt.refusing.accepted_eq ha) hdeeds, fun e he => (hexits e he).extend a⟩
    · rw [hafter]
      refine ⟨_, hspilt.after hs ha htook, fun e he => ?_⟩
      rw [exitsOf_append] at he
      rcases List.mem_append.mp he with he | he
      · exact (hexits e he).extend _
      · rcases left_cases hs htook (exitsOf_singleton he) with
          ⟨-, -, rfl⟩ | hexcuse | ⟨hstage, hstop, rfl⟩
        · exact Or.inl rfl
        · exact Or.inr ⟨later, m, [], rfl, Or.inl hexcuse⟩
        · exact Or.inr ⟨later, m, [], rfl, Or.inr ⟨hspilt.listening hstage, hstop, rfl⟩⟩

/-! ## Where the code of a full queue comes from -/

/-- Has a send found the queue full in a run? -/
def Found (c₀ : Course) (happenings : List Happening) : Prop :=
  ∃ before a gained after, happenings = before ++ a :: after ∧
    (c₀.run before).FindsFull a gained

/-- Does the session accept while it is open, and has it not left with the code of a full queue? -/
structure Roomy (c : Course) : Prop where
  session : ∃ s, c.session? = some s ∧ (c.task.stage.isOpen = true → s.state = .accepting)
  codes : ∀ k, .close k ∈ exitsOf c.deeds → k.code ≠ Close.overflow.code

theorem Roomy.session_of (hc : c.Roomy) (hs : c.session? = some s) :
    c.task.stage.isOpen = true → s.state = .accepting := by
  obtain ⟨s', hs', haccepts⟩ := hc.session
  cases hs'.symm.trans hs
  exact haccepts

/-- A step finds the queue full, or leaves the session accepting while it is open. -/
theorem found_or_accepts (hs : c.session? = some s)
    (haccepts : c.task.stage.isOpen = true → s.state = .accepting) (hm : m.commands.SendsOnly)
    (hstep : c.task.step m c.home c.pipe = some taken)
    (htook : c.task.Took m c.home c.pipe s taken) :
    (∃ gained, c.FindsFull (.step m) gained) ∨
      ∃ s', taken.home.sessions.get? c.task.session = some s' ∧
        (taken.task.stage.isOpen = true → s'.state = .accepting) := by
  have hsame : ∀ {s'}, taken.home.sessions.get? c.task.session = some s' → s'.state = s.state →
      (taken.task.stage.isOpen = true → c.task.stage.isOpen = true) →
      ∃ s', taken.home.sessions.get? c.task.session = some s' ∧
        (taken.task.stage.isOpen = true → s'.state = .accepting) :=
    fun hs' hstate hopen => ⟨_, hs', fun h => hstate.trans (haccepts (hopen h))⟩
  cases htook with
  | @handled receiver message hstage _ _ =>
    let t := { c.task with wire := { c.task.wire with receiver } }
    have hopen : c.task.stage.isOpen = true := by rw [hstage]; rfl
    obtain ⟨texts, hsent⟩ := Task.handle_sends (t := t) hs hm c.pipe s.owner message
    by_cases hstate : (s.sendAll texts).1.state = .accepting
    · exact Or.inr ⟨_, hsent, fun _ => hstate⟩
    · rcases Task.handle_deed m c.home c.pipe t s.owner message with hdeed | ⟨e, -, hleft⟩
      · obtain ⟨before, text, after, rfl, hfull⟩ :=
          Session.overflows_of_sendAll (haccepts hopen) hstate
        exact Or.inl ⟨_, .handled hs hstep hdeed hsent hfull⟩
      · exact Or.inr ⟨_, hsent, fun h => by rw [hleft] at h; cases h⟩
  | @answered text hstage =>
    have hopen : c.task.stage.isOpen = true := by rw [hstage]; rfl
    have hget := Sessions.get?_modify_self (fun _ => (s.send text).1) hs
    by_cases hstate : (s.send text).1.state = .accepting
    · refine Or.inr ⟨(s.send text).1, ?_, fun _ => hstate⟩
      unfold Task.answer
      rw [Sessions.send_of_get? text hs]
      exact hget
    · exact Or.inl ⟨[], .answered m hs hstage (Session.overflows_of_send (haccepts hopen) hstate)⟩
  | dropped => exact Or.inr ⟨_, Sessions.get?_modify_self _ hs, nofun⟩
  | wrote hstage =>
    exact Or.inr (hsame (Sessions.get?_modify_self _ hs) rfl fun _ => by rw [hstage]; rfl)
  | retired =>
    refine Or.inr ⟨_, Sessions.get?_modify_self _ hs, fun h => ?_⟩
    cases (Task.retire_shut ..).symm.trans h
  | finished => exact Or.inr ⟨_, Sessions.get?_modify_self _ hs, nofun⟩
  | flushed | read | pushed => exact Or.inr (hsame hs rfl id)
  | checked hstage | turned hstage | slept hstage | written hstage =>
    exact Or.inr (hsame hs rfl fun _ => by rw [hstage]; rfl)
  | _ => exact Or.inr ⟨s, hs, nofun⟩

/-- A step of the task finds the queue full, or leaves the session accepting while it is open. -/
theorem Roomy.after (hc : c.Roomy) (hs : c.session? = some s) (hm : m.commands.SendsOnly)
    (hstep : c.task.step m c.home c.pipe = some taken)
    (htook : c.task.Took m c.home c.pipe s taken) :
    (∃ gained, c.FindsFull (.step m) gained) ∨ (c.after taken).Roomy := by
  have haccepts := hc.session_of hs
  refine (found_or_accepts hs haccepts hm hstep htook).imp_right fun hsession =>
    ⟨?_, fun k hk => ?_⟩
  · show ∃ s', taken.home.sessions.get? taken.task.session = some s' ∧ _
    rw [htook.session_eq]
    exact hsession
  · rcases List.mem_append.mp ((exitsOf_append c.deeds _) ▸ hk) with hk | hk
    · exact hc.codes k hk
    · intro hcode
      obtain ⟨hstate, hopen⟩ := refuses_of_code hs htook (exitsOf_singleton hk) hcode
      exact hstate (haccepts hopen)

/-- Every happening finds the queue full, or leaves the session accepting while it is open. -/
theorem Roomy.perform (hc : c.Roomy) (ha : a.Tame) :
    (∃ gained, c.FindsFull a gained) ∨ (c.perform a).Roomy := by
  obtain ⟨s, hs, haccepts⟩ := hc.session
  cases c.performed a with
  | stepped hs' hstep htook hafter =>
    rw [hafter]
    exact hc.after hs' ha hstep htook
  | @sent s' text _ hs' hsent htask _ hdeeds =>
    cases hs'.symm.trans hs
    by_cases hstate : c.task.stage.isOpen = true → (s.send text).1.state = .accepting
    · refine Or.inr ⟨⟨(s.send text).1, hsent, ?_⟩, ?_⟩
      · rw [htask]
        exact hstate
      · rw [hdeeds]
        exact hc.codes
    · obtain ⟨hopen, hstate⟩ := Classical.not_imp.mp hstate
      exact Or.inl ⟨[], .sent text hs (Session.overflows_of_send (haccepts hopen) hstate)⟩
  | aside hsame =>
    refine Or.inr ⟨⟨s, hsame.session_eq.trans hs, ?_⟩, ?_⟩
    · rw [hsame.task_eq]
      exact haccepts
    · rw [hsame.deeds_eq]
      exact hc.codes

/-- A session that leaves with the code of a full queue has been found full. -/
theorem found_or_roomy {c₀ : Course} (hc₀ : c₀.Roomy) (happenings : List Happening)
    (htame : ∀ a ∈ happenings, a.Tame) :
    c₀.Found happenings ∨ (c₀.run happenings).Roomy := by
  induction happenings using List.reverseRecOn with
  | nil => exact Or.inr hc₀
  | append_singleton happenings a ih =>
    have ha : a.Tame := htame a (List.mem_append_right _ List.mem_cons_self)
    have hrun : c₀.run (happenings ++ [a]) = (c₀.run happenings).perform a := run_append c₀ _ _
    rcases ih fun b hb => htame b (List.mem_append_left _ hb) with hfound | hroomy
    · obtain ⟨before, b, gained, after, rfl, hfinds⟩ := hfound
      exact Or.inl ⟨before, b, gained, after ++ [a], by simp, hfinds⟩
    · rw [hrun]
      rcases hroomy.perform ha with ⟨gained, hfinds⟩ | hroomy'
      · exact Or.inl ⟨happenings, a, gained, [], rfl, hfinds⟩
      · exact Or.inr hroomy'

theorem start_roomy (h : Home) (p : Pipe) (leftover : Bytes) (owner : Principal) :
    (start h p leftover owner).Roomy :=
  ⟨⟨_, start_session h p leftover owner, fun _ => rfl⟩, nofun⟩

/-- When a send, one step as it is here, finds the queue of a session full, no text is accepted from
then on. Its task writes one more text or handles one more message, if any. A session that was open
leaves once, and does so with the code 1008 of a full queue, unless the write of that text fails,
stalls or meets the signal, or the message ends the channel; only when the send has come between the
task's look into the queue and its look for the signal may it find the signal first. A write that is
under way has the deadline of the moment when it began. On every schedule the session comes to its
end. And a session leaves with the code of a full queue only when a send has found it full. -/
theorem overflow_ends_session (h : Home) (p : Pipe) (leftover : Bytes) (owner : Principal)
    (happenings : List Happening) (htame : ∀ a ∈ happenings, a.Tame) :
    let c₀ := start h p leftover owner
    let c := c₀.run happenings
    (∀ a gained later, c.FindsFull a gained → (∀ b ∈ a :: later, b.Tame) →
      let c₁ := c.perform a
      let c' := c₁.run later
      c'.accepted = c.accepted ++ gained ∧
      (∃ new, c'.deeds = c₁.deeds ++ new ∧ (wroteOf new).length + (handledOf new).length ≤ 1 ∧
        (exitsOf new).length + c'.task.stage.isOpen.toNat = c₁.task.stage.isOpen.toNat ∧
        ∀ e ∈ exitsOf new, e = .close ⟨1008, "send queue overflow"⟩ ∨
          ∃ before m after, later = before ++ .step m :: after ∧ ((c₁.run before).Excuse m e ∨
            (c₁.task.stage = .listening ∧ m.stop = true ∧
              e = .close ⟨1001, "server shutting down"⟩))) ∧
      (∀ deadline, c'.task.stage = .writing deadline → ∃ began,
        c₀.BeganAt (happenings ++ a :: later) began ∧
          deadline = began.now + began.deadlines.channelWrite) ∧
      ∀ schedule, (∀ n, (schedule n).Tame) → c'.Fair schedule →
        ∃ n, (c'.along schedule n).task.stage = .ended) ∧
    ∀ k, .close k ∈ exitsOf c.deeds → k.code = 1008 → c₀.Found happenings := by
  intro c₀ c
  refine ⟨fun a gained later hfinds hlater => ?_, fun k hk hcode => ?_⟩
  · intro c₁ c'
    obtain ⟨hrefusing, haccepted⟩ := hfinds.refusing
    obtain ⟨new, hspilt, hexits⟩ :=
      spilt_run hrefusing later fun b hb => hlater b (List.mem_cons_of_mem a hb)
    have hrun : c₀.run (happenings ++ a :: later) = c' := run_append c₀ happenings (a :: later)
    have hfresh : ∀ deadline, c₀.task.stage ≠ .writing deadline := nofun
    have hbegan := began_run hfresh (happenings ++ a :: later)
    rw [hrun] at hbegan
    refine ⟨hspilt.accepted_eq.trans haccepted, ⟨new, hspilt.deeds_eq, ?_, hspilt.exits, hexits⟩,
      hbegan, fun schedule hschedule hfair => ?_⟩
    · exact (Nat.le_add_right _ _).trans hspilt.few
    · exact hspilt.refusing.comes_to_end hfair fun n _ => hschedule n
  · rcases found_or_roomy (start_roomy h p leftover owner) happenings htame with hfound | hroomy
    · exact hfound
    · exact absurd hcode (hroomy.codes k hk)

/-- The course when the session `s` of the task has accepted texts besides. -/
def queued (c : Course) (s : Session) (texts : List String) : Course :=
  { c with
    home := { c.home with
      sessions := c.home.sessions.modify c.task.session fun _ =>
        { s with queue := s.queue ++ texts } }
    accepted := c.accepted ++ texts }

theorem queued_session (hs : c.session? = some s) (texts : List String) :
    (c.queued s texts).session? = some { s with queue := s.queue ++ texts } :=
  Sessions.get?_modify_self _ hs

/-- A text that there is room for is accepted, and nothing else changes. -/
theorem perform_send_queued (hs : c.session? = some s) (hstate : s.state = .accepting)
    (hlist : s.listening = true) {texts : List String}
    (hroom : (s.queue ++ texts).length < outboundQueueLimit) (text : String) :
    (c.queued s texts).perform (.send text) = c.queued s (texts ++ [text]) := by
  have hget : (c.queued s texts).home.sessions.get? (c.queued s texts).task.session = _ :=
    queued_session hs texts
  have hsend := Session.send_of_room (s := { s with queue := s.queue ++ texts }) text hstate hlist
    hroom
  unfold perform
  dsimp only
  rw [Sessions.send_of_get? text hget, hsend]
  unfold queued
  dsimp only
  rw [Sessions.modify_modify, ← List.append_assoc, ← List.append_assoc]
  rfl

theorem run_sends (hs : c.session? = some s) (hstate : s.state = .accepting)
    (hlist : s.listening = true) (text : String) {n : Nat}
    (hroom : s.queue.length + n ≤ outboundQueueLimit) :
    c.run (List.replicate n (.send text)) = c.queued s (List.replicate n text) := by
  induction n with
  | zero =>
    unfold queued
    simp only [List.replicate_zero, List.append_nil, Sessions.modify_self hs]
    rfl
  | succ n ih =>
    have hroom' : (s.queue ++ List.replicate n text).length < outboundQueueLimit := by
      rw [List.length_append, List.length_replicate]
      omega
    rw [List.replicate_succ', run_append, ih (by omega), List.replicate_succ']
    exact perform_send_queued hs hstate hlist hroom' text

/-- What happens until a queue is full, when the task takes steps first. -/
def fillUp (steps : List Happening) : List Happening :=
  steps ++ List.replicate outboundQueueLimit (.send "x")

/-- A step of the task before the signal. -/
def early : Happening := .step { stop := false, now := 0 }

/-- A step of the task after the signal. -/
def late : Happening := .step { stop := true, now := 0 }

theorem run_fillUp {steps : List Happening} {owner : Principal}
    (hs : (c.run steps).session? = some { owner }) :
    c.run (fillUp steps) =
      (c.run steps).queued { owner } (List.replicate outboundQueueLimit "x") :=
  (run_append _ _ _).trans (run_sends hs rfl rfl "x" (Nat.zero_add _).le)

theorem findsFull_fillUp {steps : List Happening} {owner : Principal}
    (hs : (c.run steps).session? = some { owner }) (text : String) :
    (c.run (fillUp steps)).FindsFull (.send text) [] := by
  rw [run_fillUp hs]
  exact .sent text (queued_session hs _) ⟨rfl, rfl, List.length_replicate.ge⟩

/-- The task looks at the state, then the queue fills. One text more finds it full, and is not
accepted. The task writes the text that waits longest, and leaves for the full queue. -/
theorem fillUp_ends_session :
    let c := (start {} {} [] ⟨"eve", .control⟩).run (fillUp [early])
    let c' := (c.perform (.send "y")).run [early, early, early]
    c.FindsFull (.send "y") [] ∧ c'.accepted = List.replicate outboundQueueLimit "x" ∧
      c'.wrote = ["x"] ∧ exitsOf c'.deeds = [.close ⟨1008, "send queue overflow"⟩] ∧
      ∃ n, (c'.along c'.turns n).task.stage = .ended := by
  have hs : ((start {} {} [] ⟨"eve", .control⟩).run [early]).session? =
    some { owner := ⟨"eve", .control⟩ } := rfl
  have hfull := findsFull_fillUp hs "y"
  have hrun := run_fillUp hs
  have htame : ∀ a ∈ fillUp [early], a.Tame := by
    refine List.forall_mem_cons.mpr ⟨Home.commands_sendsOnly, fun a ha => ?_⟩
    rw [List.eq_of_mem_replicate ha]
    trivial
  have hlater : ∀ a ∈ [.send "y", early, early, early], a.Tame := by
    simp only [List.forall_mem_cons]
    exact ⟨trivial, Home.commands_sendsOnly, Home.commands_sendsOnly, Home.commands_sendsOnly,
      List.forall_mem_nil _⟩
  obtain ⟨haccepted, -, -, hends⟩ :=
    (overflow_ends_session {} {} [] ⟨"eve", .control⟩ (fillUp [early]) htame).1 _ _ _ hfull hlater
  dsimp only
  refine ⟨hfull, ?_, ?_, ?_, hends _ (turns_tame _) (fair_turns ?_)⟩
  · rw [haccepted, hrun, List.append_nil]
    exact List.nil_append _
  all_goals
    rw [hrun]
    decide +kernel

/-- The queue fills when the task has found it empty and the signal has fired. One text more finds
it full, but the task looks for the signal next, and leaves for it; it has written nothing and
handled nothing. And a send that overlaps with others: it has found the queue full, but before it
says so the task takes a text, and another send has its text accepted. -/
theorem fullQueue_unheeded :
    (let c := (start {} {} [] ⟨"eve", .control⟩).run (fillUp [late, late])
      let c' := (c.perform (.send "y")).run [late]
      c.FindsFull (.send "y") [] ∧ c'.wrote = [] ∧ handledOf c'.deeds = [] ∧
        exitsOf c'.deeds = [.close ⟨1001, "server shutting down"⟩]) ∧
    (let r := (Race.fresh ⟨"eve", .control⟩).run
        (Race.fill 1024 ++ [.call "y", .advance 1024, .advance 1024])
      let r' := r.run [.receive, .call "z", .advance 1025, .advance 1025]
      r.senders[1024]? = some ⟨"y", .overflowed⟩ ∧
        r'.senders[1024]? = some ⟨"y", .overflowed⟩ ∧
        r'.senders[1025]? = some ⟨"z", .returned true⟩) := by
  have hs : ((start {} {} [] ⟨"eve", .control⟩).run [late, late]).session? =
    some { owner := ⟨"eve", .control⟩ } := rfl
  constructor
  · refine ⟨findsFull_fillUp hs "y", ?_, ?_, ?_⟩
    all_goals
      rw [run_fillUp hs]
      decide +kernel
  · dsimp only
    rw [Race.run_append, Race.run_fill _ (Nat.le_refl 1024)]
    decide +kernel

end Course

end DeviceGateway.Channel
