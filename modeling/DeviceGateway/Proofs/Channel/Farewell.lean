import DeviceGateway.Proofs.Channel.Rest

/-
  How a session takes leave once the signal has fired. Its task begins no further text, and a
  request is the last message that it handles, since the answer brings it to the signal before it
  listens again (`Winding`). Pings and pongs do not: the task looks for a message before it looks
  for the signal, so it handles all that keep coming (`pings_come_before_signal`), and leaves when
  none is there (`leaves`).
-/

open DeviceGateway.Stream (Pipe)

namespace DeviceGateway.Channel

/-- Is the message a ping or a pong? -/
def Message.isControl : Message → Bool
  | .ping _ | .pong => true
  | _ => false

/-- Does the deed hand over no text, handle no message, and not end the open state? -/
def Deed.isQuiet : Deed → Bool
  | .wrote _ | .handled _ | .left _ => false
  | _ => true

/-- What may happen once the signal has fired. -/
def Happening.Late : Happening → Prop
  | .step m => m.stop = true ∧ m.commands.SendsOnly
  | _ => True

theorem Happening.Late.tame {a : Happening} (ha : a.Late) : a.Tame := by
  cases a with
  | step m => exact ha.2
  | _ => trivial

/-- A text sent to a session that is present waits in its queue, or the session accepts none any
more. -/
theorem Session.send_fills {s : Session} (hpresent : s.isPresent = true) (text : String) :
    (s.send text).1.queue ≠ [] ∨ (s.send text).1.state ≠ .accepting := by
  obtain ⟨_, hlist⟩ := (Bool.and_eq_true _ _).mp hpresent
  rcases s.send_cases text with ⟨_, _, _, heq⟩ | ⟨hrefused, heq⟩ | ⟨_, _, heq⟩
  · rw [heq]
    exact Or.inl (List.append_ne_nil_of_right_ne_nil _ (List.cons_ne_nil _ _))
  · rw [heq]
    rcases hrefused with hstate | hdeaf
    · exact Or.inr hstate
    · cases hlist.symm.trans hdeaf
  · rw [heq]
    exact Or.inr fun h => by cases h

namespace Course

variable {c : Course} {m : Moment} {s : Session} {taken : Taken}

/-! ## Presence -/

/-- Is the session there, and its task with it while it serves? -/
def Present (c : Course) : Prop :=
  ∃ s, c.session? = some s ∧ (c.task.stage.isOpen = true → s.isPresent = true)

theorem Present.of_session (hc : c.Present) (hs : c.session? = some s) :
    c.task.stage.isOpen = true → s.isPresent = true := by
  obtain ⟨s', hs', hpresent⟩ := hc
  cases hs'.symm.trans hs
  exact hpresent

/-- What a step of the task makes of its session. -/
theorem session_of_took (hs : c.session? = some s) (hm : m.commands.SendsOnly)
    (htook : c.task.Took m c.home c.pipe s taken) :
    ∃ s', taken.home.sessions.get? c.task.session = some s' ∧
      (taken.task.stage.isOpen = true →
        c.task.stage.isOpen = true ∧ s'.isPresent = s.isPresent) := by
  cases htook with
  | dropped _ _ _ => exact ⟨_, Sessions.get?_modify_self _ hs, fun h => by cases h⟩
  | wrote hstage _ _ =>
    exact ⟨_, Sessions.get?_modify_self _ hs, fun _ => ⟨by rw [hstage]; rfl, rfl⟩⟩
  | @handled receiver message hstage _ _ =>
    have hopen : c.task.stage.isOpen = true := by rw [hstage]; rfl
    unfold Task.handle
    split
    · next text =>
      split
      · exact ⟨s, hs, fun h => by cases h⟩
      · next request _ =>
        obtain ⟨texts, hsent⟩ :=
          hm.dispatch { owner := s.owner, request, session := c.task.session } c.home _ s hs
        exact ⟨_, hsent, fun _ => ⟨hopen, Session.sendAll_isPresent s texts⟩⟩
    · exact ⟨s, hs, fun h => by cases h⟩
    · exact ⟨s, hs, fun _ => ⟨hopen, rfl⟩⟩
    · exact ⟨s, hs, fun _ => ⟨hopen, rfl⟩⟩
    · exact ⟨s, hs, fun h => by cases h⟩
  | @answered text hstage =>
    unfold Task.answer
    rw [Sessions.send_of_get? text hs]
    exact ⟨_, Sessions.get?_modify_self _ hs,
      fun _ => ⟨by rw [hstage]; rfl, Session.send_isPresent s text⟩⟩
  | retired _ =>
    refine ⟨_, Sessions.get?_modify_self _ hs, fun h => ?_⟩
    cases (Task.retire_shut ..).symm.trans h
  | finished _ _ => exact ⟨_, Sessions.get?_modify_self _ hs, fun h => by cases h⟩
  | checked hstage _ | turned hstage _ _ | slept hstage _ | written hstage _ _ =>
    exact ⟨s, hs, fun _ => ⟨by rw [hstage]; rfl, rfl⟩⟩
  | flushed | read | pushed => exact ⟨s, hs, fun h => ⟨h, rfl⟩⟩
  | _ => exact ⟨s, hs, fun h => by cases h⟩

theorem Present.perform (hc : c.Present) {a : Happening} (ha : a.Tame) :
    (c.perform a).Present := by
  obtain ⟨s, hs, hpresent⟩ := hc
  cases c.performed a with
  | @stepped m s' taken _ hs' hstep htook hafter =>
    cases hs'.symm.trans hs
    obtain ⟨s', hs', hopen⟩ := session_of_took hs ha htook
    rw [hafter]
    refine ⟨s', ?_, fun h => ?_⟩
    · show taken.home.sessions.get? taken.task.session = some s'
      rw [htook.session_eq]
      exact hs'
    · obtain ⟨hbefore, hsame⟩ := hopen h
      exact hsame.trans (hpresent hbefore)
  | @sent s' text _ hs' hsent htask =>
    cases hs'.symm.trans hs
    refine ⟨_, hsent, ?_⟩
    rw [htask]
    exact fun h => (Session.send_isPresent s text).trans (hpresent h)
  | aside hsame =>
    refine ⟨s, hsame.session_eq.trans hs, ?_⟩
    rw [hsame.task_eq]
    exact hpresent

theorem start_present (h : Home) (p : Pipe) (leftover : Bytes) (owner : Principal) :
    (start h p leftover owner).Present :=
  ⟨_, start_session h p leftover owner, fun _ => rfl⟩

/-! ## What the task still does -/

/-- The messages that were handled, in order. -/
def handledOf (deeds : List (Home × Deed)) : List Message :=
  deeds.filterMap fun d =>
    match d.2 with
    | .handled m => some m
    | _ => none

/-- The ways in which the open state ended. -/
def exitsOf (deeds : List (Home × Deed)) : List Exit :=
  deeds.filterMap fun d =>
    match d.2 with
    | .left e => some e
    | _ => none

theorem handledOf_append (ds es : List (Home × Deed)) :
    handledOf (ds ++ es) = handledOf ds ++ handledOf es :=
  List.filterMap_append

theorem exitsOf_append (ds es : List (Home × Deed)) :
    exitsOf (ds ++ es) = exitsOf ds ++ exitsOf es :=
  List.filterMap_append

theorem none_of_quiet {d : Deed} (hd : d.isQuiet = true) (h : Home) :
    wroteOf [(h, d)] = [] ∧ handledOf [(h, d)] = [] ∧ exitsOf [(h, d)] = [] := by
  cases d <;> first | exact ⟨rfl, rfl, rfl⟩ | cases hd

/-- Will the task look for the signal, or end, before it listens to its client? -/
def Spent (stage : Stage) (s : Session) : Prop :=
  match stage with
  | .answering _ => True
  | .ready => s.queue ≠ [] ∨ s.state ≠ .accepting
  | .waiting => s.queue ≠ []
  | .listening | .writing _ => False
  | .left _ | .closing _ | .leaving _ | .ended => True

theorem spent_of_shut {stage : Stage} (h : stage.isOpen = false) (s : Session) :
    Spent stage s := by
  cases stage <;> trivial

/-- Texts that others send do not bring the task back to its client. -/
theorem Spent.send {stage : Stage} (h : Spent stage s) (text : String) :
    Spent stage (s.send text).1 := by
  have hqueue : s.queue ≠ [] → (s.send text).1.queue ≠ [] := by
    intro hne
    rw [Session.send_queue]
    exact List.append_ne_nil_of_left_ne_nil hne _
  have hstate : s.state ≠ .accepting → (s.send text).1.state ≠ .accepting := by
    intro hne
    rcases s.send_cases text with ⟨haccepts, _⟩ | ⟨_, heq⟩ | ⟨haccepts, _⟩
    · exact absurd haccepts hne
    · rw [heq]
      exact hne
    · exact absurd haccepts hne
  cases stage with
  | ready => exact h.imp hqueue hstate
  | waiting => exact hqueue h
  | _ => exact h

/-- Deeds of a task that knows of the signal: it begins no text, and handles pings and pongs only,
but for one request at last, after which it leaves for the signal or for a full queue. -/
structure LastDeeds (deeds : List (Home × Deed)) (controls : List Message)
    (request : Option String) : Prop where
  wrote_nil : wroteOf deeds = []
  handled_eq : handledOf deeds = controls ++ request.toList.map .text
  calm : ∀ message ∈ controls, message.isControl = true
  exits_eq : request.isSome = true →
    ∀ e ∈ exitsOf deeds, e = .close .goingAway ∨ e = .close .overflow

/-- What the task has done since the signal, and where that leaves it. -/
structure Winding (c : Course) (new : List (Home × Deed)) (controls : List Message)
    (request : Option String) : Prop extends LastDeeds new controls request where
  spent : request.isSome = true → ∀ s, c.session? = some s → Spent c.task.stage s
  exits_nil : c.task.stage.isOpen = true → exitsOf new = []

variable {new : List (Home × Deed)} {controls : List Message} {request : Option String}

theorem winding_nil (c : Course) : c.Winding [] [] none :=
  ⟨⟨rfl, rfl, fun _ h => (List.not_mem_nil h).elim, fun h => by cases h⟩, (fun h => by cases h),
    fun _ => rfl⟩

/-- A task that listens, or writes, has handled no request. -/
theorem Winding.request_none (hw : c.Winding new controls request) (hs : c.session? = some s)
    (hstage : ¬ Spent c.task.stage s) : request = none := by
  cases request with
  | none => rfl
  | some text => exact absurd (hw.spent rfl s hs) hstage

/-- A step that neither handles a message nor ends the open state. -/
theorem Winding.pass (hw : c.Winding new controls request)
    (hdeed : taken.deed.isQuiet = true)
    (hopen : taken.task.stage.isOpen = true → c.task.stage.isOpen = true)
    (hspent : request.isSome = true → ∀ s, (c.after taken).session? = some s →
      Spent taken.task.stage s) :
    (c.after taken).Winding (new ++ [(c.home, taken.deed)]) controls request := by
  obtain ⟨hwrote, hhandled, hexits⟩ := none_of_quiet hdeed c.home
  refine ⟨⟨?_, ?_, hw.calm, fun h => ?_⟩, hspent, fun h => ?_⟩
  · rw [wroteOf_append, hw.wrote_nil, hwrote]
    rfl
  · rw [handledOf_append, hhandled, List.append_nil]
    exact hw.handled_eq
  · rw [exitsOf_append, hexits, List.append_nil]
    exact hw.exits_eq h
  · rw [exitsOf_append, hexits, List.append_nil]
    exact hw.exits_nil (hopen h)

/-- A step that ends the open state. -/
theorem Winding.leave (hw : c.Winding new controls request) (hopen : c.task.stage.isOpen = true)
    {h : Home} {p : Pipe} {t : Task} {e : Exit}
    (hexit : request.isSome = true → e = .close .goingAway ∨ e = .close .overflow) :
    (c.after (Task.leave h p t e)).Winding (new ++ [(c.home, .left e)]) controls request := by
  refine ⟨⟨?_, ?_, hw.calm, fun hsome e' he => ?_⟩, fun _ _ _ => trivial, fun h => by cases h⟩
  · rw [wroteOf_append, hw.wrote_nil]
    rfl
  · rw [handledOf_append, hw.handled_eq]
    exact List.append_nil _
  · rw [exitsOf_append, hw.exits_nil hopen] at he
    rw [List.mem_singleton.mp he]
    exact hexit hsome

/-- A ping or a pong is handled. -/
theorem Winding.control (hw : c.Winding new controls none) (hopen : c.task.stage.isOpen = true)
    {message : Message} (hcontrol : message.isControl = true)
    (hdeed : taken.deed = .handled message) :
    (c.after taken).Winding (new ++ [(c.home, taken.deed)]) (controls ++ [message]) none := by
  have hexits := hw.exits_nil hopen
  have hhandled := hw.handled_eq
  rw [hdeed]
  refine ⟨⟨?_, ?_, fun message' hmem => ?_, fun h => by cases h⟩, (fun h => by cases h),
    fun _ => ?_⟩
  · rw [wroteOf_append, hw.wrote_nil]
    rfl
  · rw [handledOf_append, hhandled]
    simp [handledOf]
  · rcases List.mem_append.mp hmem with hmem | hmem
    · exact hw.calm message' hmem
    · rw [List.mem_singleton.mp hmem]
      exact hcontrol
  · rw [exitsOf_append, hexits]
    rfl

/-- A request is handled; its answer is at hand. -/
theorem Winding.ask (hw : c.Winding new controls none) (hopen : c.task.stage.isOpen = true)
    {text answer : String} (hdeed : taken.deed = .handled (.text text))
    (hstage : taken.task.stage = .answering answer) :
    (c.after taken).Winding (new ++ [(c.home, taken.deed)]) controls (some text) := by
  have hexits := hw.exits_nil hopen
  have hhandled := hw.handled_eq
  have hnil : exitsOf (new ++ [(c.home, .handled (.text text))]) = [] := by
    rw [exitsOf_append, hexits]
    rfl
  rw [hdeed]
  refine ⟨⟨?_, ?_, hw.calm, fun _ e he => ?_⟩, fun _ s _ => ?_, fun _ => hnil⟩
  · rw [wroteOf_append, hw.wrote_nil]
    rfl
  · rw [handledOf_append, hhandled]
    simp [handledOf]
  · rw [hnil] at he
    cases he
  · show Spent taken.task.stage s
    rw [hstage]
    trivial

/-- A step that leaves the home as it is, and goes from one stage to another. -/
theorem Winding.turn (hw : c.Winding new controls request) (hs : c.session? = some s)
    (hhome : taken.home = c.home) (hid : taken.task.session = c.task.session)
    (hdeed : taken.deed = .moved)
    (hopen : taken.task.stage.isOpen = true → c.task.stage.isOpen = true)
    (hspent : Spent c.task.stage s → Spent taken.task.stage s) :
    (c.after taken).Winding (new ++ [(c.home, taken.deed)]) controls request := by
  refine hw.pass (by rw [hdeed]; rfl) hopen fun hsome s' hs' => ?_
  have hsame : (c.after taken).session? = some s := by
    show taken.home.sessions.get? taken.task.session = some s
    rw [hhome, hid]
    exact hs
  cases hs'.symm.trans hsame
  exact hspent (hw.spent hsome s hs)

/-- A message is handled when the signal has fired. -/
theorem Winding.handle (hw : c.Winding new controls none) (hopen : c.task.stage.isOpen = true)
    (receiver : Receiver) (message : Message) :
    let taken := { c.task with wire := { c.task.wire with receiver } }.handle m c.home c.pipe
      s.owner message
    ∃ controls' request',
      (c.after taken).Winding (new ++ [(c.home, taken.deed)]) controls' request' := by
  unfold Task.handle
  split
  · split
    · exact ⟨controls, none, hw.leave hopen fun h => by cases h⟩
    · next text _ _ => exact ⟨controls, some _, hw.ask hopen rfl rfl⟩
  · exact ⟨controls, none, hw.leave hopen fun h => by cases h⟩
  · exact ⟨_, none, hw.control hopen rfl rfl⟩
  · exact ⟨_, none, hw.control hopen rfl rfl⟩
  · exact ⟨controls, none, hw.leave hopen fun h => by cases h⟩

/-- Every step that finds the signal fired. -/
theorem Winding.step (hw : c.Winding new controls request) (hc : c.Present)
    (hs : c.session? = some s) (hstop : m.stop = true)
    (htook : c.task.Took m c.home c.pipe s taken) :
    ∃ controls' request',
      (c.after taken).Winding (new ++ [(c.home, taken.deed)]) controls' request' := by
  have hfree : c.task.stage = .listening → request = none := by
    intro hstage
    exact hw.request_none hs (by rw [hstage]; exact id)
  have haway : ∀ {h p t e}, c.task.stage = .listening → ∃ controls' request',
      (c.after (Task.leave h p t e)).Winding (new ++ [(c.home, .left e)]) controls' request' := by
    intro h p t e hstage
    refine ⟨controls, request, hw.leave (by rw [hstage]; rfl) fun hsome => ?_⟩
    rw [hfree hstage] at hsome
    cases hsome
  cases htook with
  | overflow hstage _ =>
    exact ⟨controls, request, hw.leave (by rw [hstage]; rfl) fun _ => Or.inr rfl⟩
  | checked hstage hstate =>
    refine ⟨controls, request, hw.turn hs rfl rfl rfl (fun _ => by rw [hstage]; rfl) ?_⟩
    rw [hstage]
    exact fun h => h.resolve_right (not_not_intro hstate)
  | dropped hstage _ _ | interrupted hstage _ =>
    exact ⟨controls, request, hw.leave (by rw [hstage]; rfl) fun _ => Or.inl rfl⟩
  | wrote _ _ hgo => cases hstop.symm.trans hgo
  | turned hstage hqueue _ =>
    refine ⟨controls, request, hw.turn hs rfl rfl rfl (fun _ => by rw [hstage]; rfl) ?_⟩
    rw [hstage]
    exact fun h => absurd hqueue h
  | slept hstage _ =>
    refine ⟨controls, request, hw.turn hs rfl rfl rfl (fun _ => by rw [hstage]; rfl) ?_⟩
    rw [hstage]
    exact fun h => h.elim
  | handled hstage _ _ =>
    obtain rfl := hfree hstage
    exact hw.handle (by rw [hstage]; rfl) _ _
  | lost hstage _ | faulted hstage _ _ | hungUp hstage _ _ _ | unreadable hstage _ _ _
  | stopped hstage _ _ _ _ => exact haway hstage
  | flushed | read | pushed => exact ⟨controls, request, hw.turn hs rfl rfl rfl id id⟩
  | written _ hgo _ => cases hstop.symm.trans hgo
  | stalled _ hgo _ => cases hstop.symm.trans hgo
  | @answered text hstage =>
    have hpresent := hc.of_session hs (by rw [hstage]; rfl)
    have hget := Sessions.get?_modify_self (fun _ => (s.send text).1) hs
    unfold Task.answer
    rw [Sessions.send_of_get? text hs]
    refine ⟨controls, request, hw.pass rfl (fun _ => by rw [hstage]; rfl) ?_⟩
    intro _ s' hs'
    cases hs'.symm.trans hget
    exact Session.send_fills hpresent text
  | retired _ =>
    have hshut := Task.retire_shut m c.home c.pipe c.task
    exact ⟨controls, request, hw.pass rfl (fun h => by cases (hshut _).symm.trans h)
      fun _ s _ => spent_of_shut (hshut _) s⟩
  | closed _ | finished _ _ =>
    exact ⟨controls, request, hw.pass rfl (fun h => by cases h) fun _ _ _ => trivial⟩

/-- What happens outside the task does not bring it back to its client. -/
theorem Winding.outside (hw : c.Winding new controls request) {c' : Course}
    (htask : c'.task = c.task)
    (hspent : ∀ s', c'.session? = some s' → ∃ s, c.session? = some s ∧
      (Spent c.task.stage s → Spent c.task.stage s')) : c'.Winding new controls request := by
  refine ⟨hw.toLastDeeds, fun hsome s' hs' => ?_, fun h => ?_⟩
  · obtain ⟨s, hs, h⟩ := hspent s' hs'
    rw [htask]
    exact h (hw.spent hsome s hs)
  · exact hw.exits_nil (htask ▸ h)

/-- Every happening once the signal has fired, `base` being done before. -/
theorem winding_perform {base : List (Home × Deed)} (hc : c.Present)
    (hw : c.deeds = base ++ new ∧ c.Winding new controls request) {a : Happening}
    (ha : a.Late) : ∃ new controls request, (c.perform a).deeds = base ++ new ∧
      (c.perform a).Winding new controls request := by
  obtain ⟨hdeeds, hw⟩ := hw
  cases c.performed a with
  | @stepped m _ taken _ hs hstep htook hafter =>
    obtain ⟨controls', request', hw'⟩ := hw.step hc hs ha.1 htook
    rw [hafter]
    refine ⟨_, controls', request', ?_, hw'⟩
    show c.deeds ++ [(c.home, taken.deed)] = _
    rw [hdeeds, List.append_assoc]
  | @sent s text _ hs hsent htask _ hsame =>
    refine ⟨new, controls, request, hsame.trans hdeeds, hw.outside htask fun s' hs' => ⟨s, hs, ?_⟩⟩
    cases hs'.symm.trans hsent
    exact fun h => h.send text
  | aside hsame =>
    exact ⟨new, controls, request, hsame.deeds_eq.trans hdeeds,
      hw.outside hsame.task_eq fun s' hs' => ⟨s', hsame.session_eq.symm.trans hs', id⟩⟩

theorem winding_run (hc : c.Present) (happenings : List Happening)
    (hlate : ∀ a ∈ happenings, a.Late) :
    (c.run happenings).Present ∧ ∃ new controls request,
      (c.run happenings).deeds = c.deeds ++ new ∧
        (c.run happenings).Winding new controls request :=
  run_invariant
    (P := fun c' => c'.Present ∧ ∃ new controls request,
      c'.deeds = c.deeds ++ new ∧ c'.Winding new controls request)
    (fun _ _ ⟨hc, _, _, _, hw⟩ ha => ⟨hc.perform ha.tame, winding_perform hc hw ha⟩)
    ⟨hc, [], [], none, (List.append_nil _).symm, winding_nil c⟩ happenings hlate

/-! ## The task leaves -/

/-- What waits to be written, the owed pong counting as more than its octets. -/
def pending (w : Wire) : Nat :=
  w.out.length + w.pongOctets.length + if w.pong.isSome then 1 else 0

theorem flush_pending {w : Wire} {p : Pipe} (hadvanced : w.advanced (w.flush p).1 = true) :
    pending (w.flush p).1 < pending w := by
  have hafter : pending (w.flush p).1 = (w.flush p).1.out.length := rfl
  have hle : (w.flush p).1.out.length ≤ w.out.length + w.pongOctets.length := by
    calc (w.flush p).1.out.length ≤ (w.queue []).out.length := Pipe.write_length p _
      _ = w.out.length + w.pongOctets.length := by simp [Wire.queue]
  rw [hafter]
  unfold pending
  rcases (Bool.or_eq_true _ _).mp hadvanced with hpong | hless
  · rw [hpong, if_pos rfl]
    omega
  · have hless := of_decide_eq_true hless
    omega

theorem receive_isSome_of_stop {t : Task} {h : Home} {p : Pipe} {owner : Principal}
    (hstop : m.stop = true) : (t.receive m h p owner).isSome = true := by
  unfold Task.receive
  split
  · rfl
  · rfl
  · dsimp only
    split
    · rfl
    · rfl
    · rfl
    · unfold Task.idle
      rw [hstop]
      rfl

/-- Once the signal has fired, there is always something to listen to. -/
theorem listen_isSome_of_stop {t : Task} {h : Home} {p : Pipe} {owner : Principal}
    (hstop : m.stop = true) : (t.listen m h p owner).isSome = true := by
  unfold Task.listen
  split
  · split
    · rfl
    · split
      · rfl
      · exact receive_isSome_of_stop hstop
  · exact receive_isSome_of_stop hstop

/-- A task that serves takes a step when the signal has fired, whatever the connection does. -/
theorem step_isSome_of_stop (hs : c.session? = some s) (hopen : c.task.stage.isOpen = true)
    (hstop : m.stop = true) : (c.task.step m c.home c.pipe).isSome = true := by
  have hget : c.home.sessions.get? c.task.session = some s := hs
  unfold Task.step
  rw [hget]
  dsimp only
  split
  · split <;> rfl
  · unfold Task.serve
    split
    · dsimp only
      rw [hstop]
      rfl
    · rw [listen_isSome_of_stop hstop]
      rfl
  · rfl
  · rw [hstop]
    rfl
  · rfl
  all_goals
    next hstage =>
      rw [hstage] at hopen
      cases hopen

/-- Is less left to read, or to write, or to go through? -/
def Nears (c : Course) (taken : Taken) : Prop :=
  unread taken.task taken.pipe < unread c.task c.pipe ∨
    (unread taken.task taken.pipe = unread c.task c.pipe ∧
      (pending taken.task.wire < pending c.task.wire ∨
        (pending taken.task.wire = pending c.task.wire ∧
          rank true taken.task.stage < rank true c.task.stage)))

/-- A step that finds the signal fired ends the open state, or comes nearer to its end. -/
theorem step_nears (hstop : m.stop = true) (hopen : c.task.stage.isOpen = true)
    (htook : c.task.Took m c.home c.pipe s taken) :
    taken.task.stage.isOpen = false ∨ c.Nears taken := by
  have hturn : ∀ stage, rank true stage < rank true c.task.stage →
      c.Nears { home := c.home, pipe := c.pipe, task := { c.task with stage } } :=
    fun _ h => Or.inr ⟨rfl, Or.inr ⟨rfl, h⟩⟩
  cases htook with
  | checked hstage _ | turned hstage _ _ => exact Or.inr (hturn _ (by rw [hstage]; decide))
  | slept _ hnone =>
    have hsome : (c.task.listen m c.home c.pipe s.owner).isSome = true :=
      listen_isSome_of_stop hstop
    rw [hnone] at hsome
    cases hsome
  | flushed hstage howes hadvanced =>
    refine Or.inr (Or.inr ⟨?_, Or.inl (flush_pending hadvanced)⟩)
    unfold unread
    rw [(Wire.flush_incoming c.task.wire c.pipe).1]
    rfl
  | @handled receiver message _ _ hmessage =>
    obtain ⟨hpipe, _, hreceiver⟩ := Task.handle_kept m c.home c.pipe
      { c.task with wire := { c.task.wire with receiver } } s.owner message
    exact Or.inr (Or.inl (lessens_of_message hmessage hreceiver hpipe))
  | read _ _ hmessage hread =>
    obtain ⟨hne, hincoming⟩ := Pipe.read_octets hread
    have hpos := List.length_pos_iff.mpr hne
    have hle := (Receiver.next_length hmessage).1
    refine Or.inr (Or.inl ?_)
    unfold unread
    dsimp only
    rw [hincoming, List.length_append, List.length_append]
    omega
  | wrote _ _ hgo => cases hstop.symm.trans hgo
  | written _ hgo _ => cases hstop.symm.trans hgo
  | pushed hstage _ hgo =>
    rcases hstage with hwriting | hclosing
    · cases hstop.symm.trans (hgo hwriting)
    · rw [hclosing] at hopen
      cases hopen
  | answered hstage =>
    refine Or.inr (Or.inr ⟨rfl, Or.inr ⟨rfl, ?_⟩⟩)
    rw [hstage]
    show 3 < 10
    decide
  | retired hstage =>
    rw [hstage] at hopen
    cases hopen
  | _ => exact Or.inl rfl

/-- When the signal has fired and nobody comes in between, the task ends its open state. -/
theorem leaves {c : Course} (hc : c.Present) (moments : Nat → Moment)
    (hmoments : ∀ i, (moments i).stop = true ∧ (moments i).commands.SendsOnly) :
    ∃ n, (c.run (steps moments n)).task.stage.isOpen = false := by
  cases hopen : c.task.stage.isOpen with
  | false => exact ⟨0, hopen⟩
  | true =>
    obtain ⟨s, hs, _⟩ := id hc
    obtain ⟨taken, hstep⟩ :=
      Option.isSome_iff_exists.mp (step_isSome_of_stop hs hopen (hmoments 0).1)
    have hafter : c.perform (.step (moments 0)) = c.after taken := perform_step hstep
    have hrun : ∀ n, c.run (steps moments (n + 1)) =
        (c.after taken).run (steps (fun i => moments (i + 1)) n) := by
      intro n
      rw [steps_succ, ← hafter]
      rfl
    rcases step_nears (hmoments 0).1 hopen (Task.step_took hs hstep) with hshut | hnears
    · exact ⟨1, by rw [hrun 0]; exact hshut⟩
    · have hpresent := hc.perform (a := .step (moments 0)) (hmoments 0).2
      rw [hafter] at hpresent
      obtain ⟨n, hn⟩ := leaves hpresent (fun i => moments (i + 1)) fun i => hmoments (i + 1)
      exact ⟨n + 1, by rw [hrun n]; exact hn⟩
termination_by (unread c.task c.pipe, pending c.task.wire, rank true c.task.stage)
decreasing_by
  rcases hnears with hless | ⟨heq, hless | ⟨heq', hless⟩⟩
  · exact Prod.Lex.left _ _ hless
  · exact Prod.lex_def.mpr (Or.inr ⟨heq, Prod.Lex.left _ _ hless⟩)
  · exact Prod.lex_def.mpr (Or.inr ⟨heq, Prod.lex_def.mpr (Or.inr ⟨heq', hless⟩)⟩)

/-- Once the signal has fired, the task of a session begins no text. All that it still handles are
pings and pongs, and then at most one request, after which it leaves for the signal or for a full
queue. It leaves as soon as nobody comes in between, whatever the connection does. -/
theorem task_winds_up (h : Home) (p : Pipe) (leftover : Bytes) (owner : Principal)
    (happenings later : List Happening) (htame : ∀ a ∈ happenings, a.Tame)
    (hlate : ∀ a ∈ later, a.Late) :
    let c := (start h p leftover owner).run happenings
    let c' := c.run later
    (∃ new controls request, c'.deeds = c.deeds ++ new ∧ LastDeeds new controls request) ∧
      ∀ moments : Nat → Moment,
        (∀ i, (moments i).stop = true ∧ (moments i).commands.SendsOnly) →
        ∃ n, (c'.run (steps moments n)).task.stage.isOpen = false := by
  intro c c'
  have hpresent : c.Present :=
    run_invariant (fun _ _ hc ha => hc.perform ha) (start_present h p leftover owner) happenings
      htame
  obtain ⟨hpresent', new, controls, request, hdeeds, hw⟩ := winding_run hpresent later hlate
  exact ⟨⟨new, controls, request, hdeeds, hw.toLastDeeds⟩, leaves hpresent'⟩

/-- Three pings of a client. -/
def threePings : Bytes :=
  [49, 50, 51].flatMap fun b => Frame.encode 137 (some ⟨[1, 2, 3, 4]⟩) [b]

/-- The task takes steps, and finds the signal fired. -/
def lateSteps (n : Nat) : List Happening := List.replicate n (.step { stop := true, now := 0 })

/-- A task that finds the signal fired from the first handles three pings before it leaves. -/
theorem pings_come_before_signal :
    let c := (start {} {} threePings ⟨"eve", .control⟩).run (lateSteps 15)
    handledOf c.deeds = [.ping [49], .ping [50], .ping [51]] ∧
      exitsOf c.deeds = [.close .goingAway] := by
  decide +kernel

/-- When the signal fires, a text waits and pings have come. The text is not written, and the pings
are not handled. -/
theorem waitingText_winds_up :
    let c := (start {} {} threePings ⟨"eve", .control⟩).run [.send "a"]
    let c' := c.run (lateSteps 15)
    handledOf c'.deeds = [] ∧ exitsOf c'.deeds = [.close .goingAway] ∧
      (∃ new controls request, c'.deeds = c.deeds ++ new ∧ LastDeeds new controls request) ∧
      ∀ moments : Nat → Moment,
        (∀ i, (moments i).stop = true ∧ (moments i).commands.SendsOnly) →
        ∃ n, (c'.run (steps moments n)).task.stage.isOpen = false := by
  refine ⟨by decide +kernel, by decide +kernel, ?_⟩
  refine task_winds_up {} {} threePings ⟨"eve", .control⟩ [.send "a"] _ ?_ ?_
  · intro a ha
    rw [List.mem_singleton.mp ha]
    trivial
  · intro a ha
    rw [(List.mem_replicate.mp ha).2]
    exact ⟨rfl, Home.commands_sendsOnly⟩

end Course

end DeviceGateway.Channel
