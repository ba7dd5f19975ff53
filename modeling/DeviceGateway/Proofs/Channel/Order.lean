import DeviceGateway.Proofs.Channel.Course

/-
  The order on the wire. While a session is open, what it has accepted is what its task has handed
  to the framing, followed by its queue; and the octets of the frames handed over are those written,
  followed by those that wait. Every happening keeps both (`inOrder_perform`), so at every moment
  the texts written are a prefix of the texts accepted (`texts_written_in_order`).
-/

open DeviceGateway.Stream (Pipe)

namespace DeviceGateway.Channel

open Sent

/-- Do the commands that a step uses reach the sessions by sends alone? -/
def Happening.Tame : Happening → Prop
  | .step m => m.commands.SendsOnly
  | _ => True

namespace Course

/-- What ties the texts accepted to the queue, the framing and the wire; `frames` have been handed
to the framing, and `base` was written before. -/
structure Flow (base : Bytes) (frames : List Sent) (c : Course) : Prop where
  exists_session : ∃ s, c.session? = some s
  accepted_eq : c.task.stage.isOpen = true → c.accepted = c.wrote ++ c.queue
  wrote_prefix : c.wrote <+: c.accepted
  texts_eq : textsOf frames = c.wrote
  octets_eq : c.task.stage.mayWrite = true →
    c.written ++ c.task.wire.out = base ++ octetsOf frames
  written_prefix : c.written <+: base ++ octetsOf frames

variable {base : Bytes} {frames : List Sent} {c : Course} {m : Moment} {s : Session}
  {taken : Taken}

/-! ## Steps that take no text from the queue -/

/-- A step may add to the queue what the session accepts, and hand over frames without texts. -/
theorem Flow.move (hc : Flow base frames c) (gs : List Sent)
    (hwrote : wroteOf [(c.home, taken.deed)] = [])
    (hsession : ∃ s, taken.home.sessions.get? taken.task.session = some s)
    (hopen : taken.task.stage.isOpen = true → c.task.stage.isOpen = true ∧
      queueOf taken.home taken.task.session = c.queue ++ c.gained taken)
    (htexts : textsOf gs = [])
    (hoctets : taken.task.stage.mayWrite = true →
      c.received ++ taken.pipe.written ++ taken.task.wire.out = base ++ octetsOf (frames ++ gs))
    (hwritten : c.received ++ taken.pipe.written <+: base ++ octetsOf (frames ++ gs)) :
    Flow base (frames ++ gs) (c.after taken) := by
  have hsame : (c.after taken).wrote = c.wrote := by
    rw [wrote_after, hwrote, List.append_nil]
  refine ⟨hsession, ?_, ?_, ?_, hoctets, hwritten⟩
  · intro h
    obtain ⟨hbefore, hqueue⟩ := hopen h
    rw [hsame]
    show c.accepted ++ c.gained taken = c.wrote ++ queueOf taken.home taken.task.session
    rw [hqueue, hc.accepted_eq hbefore, List.append_assoc]
  · rw [hsame]
    exact hc.wrote_prefix.trans (List.prefix_append _ _)
  · rw [textsOf_append, htexts, List.append_nil, hsame]
    exact hc.texts_eq

/-- A step that leaves alone what is written, and what waits to be. -/
theorem Flow.still (hc : Flow base frames c)
    (hwrote : wroteOf [(c.home, taken.deed)] = [])
    (hsession : ∃ s, taken.home.sessions.get? taken.task.session = some s)
    (hopen : taken.task.stage.isOpen = true → c.task.stage.isOpen = true ∧
      queueOf taken.home taken.task.session = c.queue ++ c.gained taken)
    (hmay : taken.task.stage.mayWrite = true →
      c.task.stage.mayWrite = true ∧ taken.task.wire.out = c.task.wire.out)
    (hpipe : taken.pipe.written = c.pipe.written) :
    ∃ frames', Flow base frames' (c.after taken) := by
  refine ⟨frames ++ [], hc.move [] hwrote hsession hopen rfl ?_ ?_⟩
  · intro h
    obtain ⟨hbefore, hout⟩ := hmay h
    rw [hpipe, hout, List.append_nil]
    exact hc.octets_eq hbefore
  · rw [hpipe, List.append_nil]
    exact hc.written_prefix

/-- A step that touches neither the home nor what is written, or waits to be. -/
theorem Flow.quiet (hc : Flow base frames c) (hhome : taken.home = c.home)
    (hid : taken.task.session = c.task.session) (hwrote : wroteOf [(c.home, taken.deed)] = [])
    (hanswer : ∀ text, taken.deed ≠ .answered text true)
    (hopen : taken.task.stage.isOpen = true → c.task.stage.isOpen = true)
    (hmay : taken.task.stage.mayWrite = true → c.task.stage.mayWrite = true)
    (hpipe : taken.pipe.written = c.pipe.written) (hout : taken.task.wire.out = c.task.wire.out) :
    ∃ frames', Flow base frames' (c.after taken) := by
  have hqueue : queueOf taken.home c.task.session = c.queue := by rw [hhome]; rfl
  have hgained : c.gained taken = [] := by
    unfold gained
    split
    · rw [hqueue, List.drop_length]
    · next text hd => exact absurd hd (hanswer text)
    · rfl
  refine hc.still hwrote ?_ (fun h => ⟨hopen h, ?_⟩) (fun h => ⟨hmay h, hout⟩) hpipe
  · rw [hhome, hid]
    exact hc.exists_session
  · rw [hid, hqueue, hgained, List.append_nil]

/-- A step of an open task to another stage, by which at most octets come in. -/
theorem Flow.turn (hc : Flow base frames c) (hopen : c.task.stage.isOpen = true) {p : Pipe}
    {wire : Wire} {stage : Stage} (hpipe : p.written = c.pipe.written)
    (hout : wire.out = c.task.wire.out) :
    ∃ frames', Flow base frames' (c.after
      { home := c.home, pipe := p, task := { c.task with wire, stage } }) :=
  hc.quiet rfl rfl rfl (fun _ h => by cases h) (fun _ => hopen)
    (fun _ => Stage.mayWrite_of_isOpen hopen) hpipe hout

/-- A step of an open task that ends the open state, by which at most octets come in. -/
theorem Flow.leave (hc : Flow base frames c) (hopen : c.task.stage.isOpen = true) {p : Pipe}
    {wire : Wire} {e : Exit} (hpipe : p.written = c.pipe.written)
    (hout : wire.out = c.task.wire.out) :
    ∃ frames', Flow base frames' (c.after (Task.leave c.home p { c.task with wire } e)) :=
  hc.quiet rfl rfl rfl (fun _ h => by cases h) (fun h => by cases h)
    (fun _ => Stage.mayWrite_of_isOpen hopen) hpipe hout

/-- A step that flushes: an owed pong is handed over, and what waits goes on towards the client. -/
theorem Flow.flush (hc : Flow base frames c) (hhome : taken.home = c.home)
    (hid : taken.task.session = c.task.session)
    (hdeed : taken.deed = .moved ∨ ∃ e, taken.deed = .left e)
    (hopen : taken.task.stage.isOpen = true → c.task.stage.isOpen = true)
    (hbefore : c.task.stage.mayWrite = true)
    (hpipe : taken.pipe = (c.task.wire.flush c.pipe).2.1)
    (hwire : taken.task.stage.mayWrite = true →
      taken.task.wire = (c.task.wire.flush c.pipe).1) :
    ∃ frames', Flow base frames' (c.after taken) := by
  have hgained : c.gained taken = [] := by
    unfold gained
    rcases hdeed with hd | ⟨e, hd⟩ <;> rw [hd]
  have hflush : c.received ++ taken.pipe.written ++ (c.task.wire.flush c.pipe).1.out =
      base ++ octetsOf (frames ++ c.task.wire.owed) := by
    rw [hpipe, List.append_assoc, Wire.flush_written, octetsOf_append, ← List.append_assoc base,
      ← hc.octets_eq hbefore]
    simp [written]
  refine ⟨frames ++ c.task.wire.owed, hc.move _ ?_ ?_ (fun h => ⟨hopen h, ?_⟩)
    (Wire.textsOf_owed _) ?_ ⟨_, hflush⟩⟩
  · unfold wroteOf
    rcases hdeed with hd | ⟨e, hd⟩ <;> rw [hd] <;> rfl
  · rw [hhome, hid]
    exact hc.exists_session
  · rw [hhome, hid, hgained, List.append_nil]
    rfl
  · intro h
    rw [hwire h]
    exact hflush

/-! ## Steps that accept texts -/

/-- What a session gains while a message of its client is handled: of the texts that the handler
sends to it, those that it accepts. -/
theorem gained_handled {texts : List String} {message : Message} (hs : c.session? = some s)
    (hsent : taken.home.sessions.get? c.task.session = some (s.sendAll texts).1)
    (hdeed : taken.deed = .handled message) : c.gained taken = (s.sendAll texts).2 := by
  unfold gained
  rw [hdeed]
  dsimp only
  rw [queueOf_of_get? hsent, Session.sendAll_queue]
  unfold queue
  rw [queueOf_of_get? hs, List.drop_left]

/-- A message is handled. -/
theorem Flow.handle (hc : Flow base frames c) (hs : c.session? = some s)
    (hm : m.commands.SendsOnly) (hopen : c.task.stage.isOpen = true) (receiver : Receiver)
    (message : Message) :
    ∃ frames', Flow base frames' (c.after
      ({ c.task with wire := { c.task.wire with receiver } }.handle m c.home c.pipe s.owner
        message)) := by
  have hmay := Stage.mayWrite_of_isOpen hopen
  unfold Task.handle
  split
  · next text =>
    split
    · exact hc.leave hopen rfl rfl
    · next request _ =>
      let call : Call := { owner := s.owner, request, session := c.task.session }
      obtain ⟨texts, hsent⟩ := hm.dispatch call c.home _ s hs
      refine hc.still rfl ⟨_, hsent⟩ (fun _ => ⟨hopen, ?_⟩) (fun _ => ⟨hmay, rfl⟩) rfl
      rw [gained_handled hs hsent rfl]
      unfold queue
      rw [queueOf_of_get? hs]
      exact (queueOf_of_get? hsent).trans (Session.sendAll_queue s texts)
  · exact hc.leave hopen rfl rfl
  · exact hc.quiet rfl rfl rfl (fun _ h => by cases h) (fun _ => hopen) (fun _ => hmay) rfl rfl
  · exact hc.quiet rfl rfl rfl (fun _ h => by cases h) (fun _ => hopen) (fun _ => hmay) rfl rfl
  · exact hc.leave hopen rfl rfl

/-- The answer to a request is sent to the session. -/
theorem Flow.answer (hc : Flow base frames c) (hs : c.session? = some s)
    (hopen : c.task.stage.isOpen = true) (text : String) :
    ∃ frames', Flow base frames' (c.after (c.task.answer c.home c.pipe text)) := by
  have hsend := Sessions.send_of_get? text hs
  have hget := Sessions.get?_modify_self (fun _ => (s.send text).1) hs
  unfold Task.answer
  rw [hsend]
  refine hc.still rfl ⟨_, hget⟩ (fun _ => ⟨hopen, ?_⟩)
    (fun _ => ⟨Stage.mayWrite_of_isOpen hopen, rfl⟩) rfl
  refine (queueOf_of_get? hget).trans ?_
  rw [Session.send_queue]
  unfold queue gained
  rw [queueOf_of_get? hs]
  cases (s.send text).2 <;> rfl

/-! ## Steps that hand a text over, or the close frame -/

/-- The text at the front of the queue is handed to the framing. -/
theorem Flow.write (hc : Flow base frames c) {text : String} {rest : List String}
    {stage : Stage} (hs : c.session? = some s) (hopen : c.task.stage.isOpen = true)
    (hqueue : s.queue = text :: rest) :
    ∃ frames', Flow base frames' (c.after
      { deed := .wrote text, home := c.task.popped c.home s rest, pipe := c.pipe
        task := { c.task with
          wire := c.task.wire.queue (Frame.outgoing .text (utf8 text)), stage } }) := by
  have hpopped := Sessions.get?_modify_self (fun _ => { s with queue := rest }) hs
  have haccepted : c.accepted = c.wrote ++ [text] ++ rest := by
    rw [hc.accepted_eq hopen, List.append_assoc]
    unfold queue
    rw [queueOf_of_get? hs, hqueue]
    rfl
  have hoctets : c.written ++ (c.task.wire.queue (Frame.outgoing .text (utf8 text))).out =
      base ++ octetsOf (frames ++ ([Sent.text text] ++ c.task.wire.owed)) := by
    rw [Wire.queue_out, octetsOf_append, ← List.append_assoc base,
      ← hc.octets_eq (Stage.mayWrite_of_isOpen hopen), octetsOf_append]
    simp [octetsOf, octets]
  refine ⟨frames ++ ([Sent.text text] ++ c.task.wire.owed), ⟨_, hpopped⟩, ?_, ?_, ?_,
    fun _ => hoctets, ⟨_, hoctets⟩⟩
  · intro _
    rw [wrote_after]
    show c.accepted ++ [] = c.wrote ++ [text] ++ queueOf (c.task.popped c.home s rest) _
    rw [List.append_nil, haccepted, queueOf_of_get? hpopped]
  · rw [wrote_after]
    show c.wrote ++ [text] <+: c.accepted ++ []
    rw [List.append_nil, haccepted]
    exact List.prefix_append _ _
  · rw [wrote_after, textsOf_append, textsOf_append, Wire.textsOf_owed, hc.texts_eq]
    rfl

/-- After the peer's close, is the framing closed? -/
def Parted (c : Course) : Prop := c.task.stage = .left .peerClosed → c.task.wire.isOpen = false

/-- The task leaves for the peer's close only with a framing that is closed. -/
theorem Parted.after (hc : c.Parted) (htook : c.task.Took m c.home c.pipe s taken) :
    (c.after taken).Parted := by
  cases htook with
  | handled hstage _ _ =>
    unfold Parted Course.after Task.handle
    dsimp only
    split
    · split <;> exact nofun
    · exact nofun
    · exact nofun
    · exact nofun
    · exact fun _ => rfl
  | flushed | read | pushed => exact hc
  | @retired e _ =>
    rcases Task.retire_cases m c.home c.pipe c.task e with heq | ⟨close, he, hopen⟩
    · rw [heq]
      exact nofun
    · rw [Task.retire_of_open he hopen]
      exact nofun
  | _ => exact nofun

/-- The shutdown begins. A close frame follows all that was handed over before; without one,
nothing is written any more. -/
theorem Flow.retire (hc : Flow base frames c) (hp : c.Parted) (hs : c.session? = some s)
    {e : Exit} (hstage : c.task.stage = .left e) :
    ∃ frames', Flow base frames' (c.after (c.task.retire m c.home c.pipe e)) := by
  have hmarked : ∃ s', (c.task.mark .closing c.home).sessions.get? c.task.session = some s' :=
    ⟨_, Sessions.get?_modify_self _ hs⟩
  rcases Task.retire_cases m c.home c.pipe c.task e with heq | ⟨close, he, hopen⟩
  · rw [heq]
    exact hc.still rfl hmarked (fun h => by cases h) (fun h => by cases h) rfl
  · obtain ⟨k, rfl⟩ : ∃ k, e = .close k := by
      cases e with
      | close k => exact ⟨k, rfl⟩
      | peerClosed => cases (hp hstage).symm.trans hopen
      | broken => cases he
    rw [Task.retire_of_open rfl hopen]
    have hoctets :
        c.written ++ (c.task.wire.queue (Frame.outgoing .close k.payload)).out =
          base ++ octetsOf (frames ++ ([Sent.close k] ++ c.task.wire.owed)) := by
      rw [Wire.queue_out, octetsOf_append, ← List.append_assoc base,
        ← hc.octets_eq (by rw [hstage]; rfl), octetsOf_append]
      simp [octetsOf, octets]
    refine ⟨_, hc.move ([Sent.close k] ++ c.task.wire.owed) rfl hmarked
      (fun h => by cases h) ?_ (fun _ => hoctets) ⟨_, hoctets⟩⟩
    rw [textsOf_append, Wire.textsOf_owed]
    rfl

/-! ## All that can happen -/

/-- Every step of the task keeps the order. -/
theorem Flow.step (hc : Flow base frames c) (hp : c.Parted) (hs : c.session? = some s)
    (hm : m.commands.SendsOnly) (htook : c.task.Took m c.home c.pipe s taken) :
    ∃ frames', Flow base frames' (c.after taken) := by
  cases htook with
  | overflow hstage _ => exact hc.leave (by rw [hstage]; rfl) rfl rfl
  | checked hstage _ => exact hc.turn (by rw [hstage]; rfl) rfl rfl
  | dropped hstage _ _ =>
    exact hc.still rfl ⟨_, Sessions.get?_modify_self _ hs⟩ (fun h => by cases h)
      (fun _ => ⟨by rw [hstage]; rfl, rfl⟩) rfl
  | wrote hstage hqueue _ => exact hc.write hs (by rw [hstage]; rfl) hqueue
  | turned hstage _ _ => exact hc.turn (by rw [hstage]; rfl) rfl rfl
  | slept hstage _ => exact hc.turn (by rw [hstage]; rfl) rfl rfl
  | flushed hstage _ =>
    exact hc.flush rfl rfl (Or.inl rfl) (fun _ => by rw [hstage]; rfl) (by rw [hstage]; rfl) rfl
      fun _ => rfl
  | lost hstage _ =>
    exact hc.flush rfl rfl (Or.inr ⟨_, rfl⟩) (fun h => by cases h) (by rw [hstage]; rfl) rfl
      fun h => by cases h
  | faulted hstage _ _ => exact hc.leave (by rw [hstage]; rfl) rfl rfl
  | handled hstage _ _ => exact hc.handle hs hm (by rw [hstage]; rfl) _ _
  | read hstage _ _ hread => exact hc.turn (by rw [hstage]; rfl) (Pipe.read_written hread) rfl
  | hungUp hstage _ _ hread => exact hc.leave (by rw [hstage]; rfl) (Pipe.read_written hread) rfl
  | unreadable hstage _ _ hread =>
    exact hc.leave (by rw [hstage]; rfl) (Pipe.read_written hread) rfl
  | stopped hstage _ _ hread _ =>
    exact hc.leave (by rw [hstage]; rfl) (Pipe.read_written hread) rfl
  | interrupted hstage _ => exact hc.leave (by rw [hstage]; rfl) rfl rfl
  | written hstage _ _ =>
    exact hc.flush rfl rfl (Or.inl rfl) (fun _ => by rw [hstage]; rfl) (by rw [hstage]; rfl) rfl
      fun _ => rfl
  | stalled hstage _ _ =>
    exact hc.flush rfl rfl (Or.inr ⟨_, rfl⟩) (fun h => by cases h) (by rw [hstage]; rfl) rfl
      fun h => by cases h
  | pushed hstage _ =>
    exact hc.flush rfl rfl (Or.inl rfl) id (by rcases hstage with h | h <;> rw [h] <;> rfl) rfl
      fun _ => rfl
  | answered hstage => exact hc.answer hs (by rw [hstage]; rfl) _
  | retired hstage => exact hc.retire hp hs hstage
  | closed hstage =>
    exact hc.flush rfl rfl (Or.inl rfl) (fun h => by cases h) (by rw [hstage]; rfl) rfl
      fun h => by cases h
  | finished _ hpipe =>
    refine hc.still rfl ⟨_, Sessions.get?_modify_self _ hs⟩ (fun h => by cases h)
      (fun h => by cases h) ?_
    rcases hpipe with rfl | rfl <;> rfl

/-- Something that happens outside the task keeps the order when it adds to the queue just what the
session accepts, and moves no octet but towards the client. -/
theorem Flow.outside (hc : Flow base frames c) {c' : Course} (texts : List String)
    (htask : c'.task = c.task) (hdeeds : c'.deeds = c.deeds) (hsession : ∃ s, c'.session? = some s)
    (haccepted : c'.accepted = c.accepted ++ texts) (hqueue : c'.queue = c.queue ++ texts)
    (hwritten : c'.written = c.written) : Flow base frames c' := by
  have hwrote : c'.wrote = c.wrote := congrArg wroteOf hdeeds
  refine ⟨hsession, ?_, ?_, ?_, ?_, ?_⟩
  · intro h
    rw [haccepted, hwrote, hqueue, hc.accepted_eq (htask ▸ h), List.append_assoc]
  · rw [haccepted, hwrote]
    exact hc.wrote_prefix.trans (List.prefix_append _ _)
  · rw [hwrote]
    exact hc.texts_eq
  · intro h
    rw [hwritten, htask]
    exact hc.octets_eq (htask ▸ h)
  · rw [hwritten]
    exact hc.written_prefix

/-- Nothing opens the framing again after the peer's close. -/
theorem Parted.perform (hc : c.Parted) (a : Happening) : (c.perform a).Parted := by
  rcases perform_cases c a with ⟨htask, -⟩ | ⟨m, s, taken, -, -, htook, hafter⟩
  · unfold Parted
    rw [htask]
    exact hc
  · rw [hafter]
    exact hc.after htook

/-- Every happening keeps the order. -/
theorem flow_perform (hc : Flow base frames c) (hp : c.Parted) {a : Happening} (ha : a.Tame) :
    ∃ frames', Flow base frames' (c.perform a) := by
  obtain ⟨s, hs⟩ := hc.exists_session
  cases a with
  | send text =>
    have hget := Sessions.get?_modify_self (fun _ => (s.send text).1) hs
    unfold perform
    dsimp only
    rw [Sessions.send_of_get? text hs]
    refine ⟨frames, hc.outside _ rfl rfl ⟨_, hget⟩ rfl ?_ rfl⟩
    refine (queueOf_of_get? hget).trans ?_
    unfold queue
    rw [Session.send_queue, queueOf_of_get? hs]
  | elsewhere h =>
    unfold perform
    dsimp only
    split
    · next hsame =>
      refine ⟨frames, hc.outside [] rfl rfl ⟨s, hsame.trans hs⟩ (by simp) ?_ rfl⟩
      unfold queue queueOf
      rw [hsame, List.append_nil]
    · exact ⟨frames, hc⟩
  | octets bs =>
    unfold perform
    dsimp only
    split
    · exact ⟨frames, hc⟩
    · exact ⟨frames, hc.outside [] rfl rfl ⟨s, hs⟩ (by simp) (by simp [queue]) rfl⟩
  | receive =>
    refine ⟨frames, hc.outside [] rfl rfl ⟨s, hs⟩ ?_ ?_ ?_⟩
    · simp [perform]
    · simp [perform, queue]
    · unfold perform written
      dsimp only
      rw [List.append_assoc, Pipe.take_written]
  | network room faults gone ended =>
    exact ⟨frames, hc.outside [] rfl rfl ⟨s, hs⟩ (by simp [perform])
      (by simp [perform, queue]) rfl⟩
  | step m =>
    unfold perform
    dsimp only
    split
    · exact ⟨frames, hc⟩
    · next taken htaken => exact hc.step hp hs ha (Task.step_took hs htaken)

/-- The order on the wire, and the peer's close as its end. -/
structure InOrder (base : Bytes) (frames : List Sent) (c : Course) : Prop
    extends Flow base frames c where
  parted : c.Parted

theorem inOrder_perform (hc : InOrder base frames c) {a : Happening} (ha : a.Tame) :
    ∃ frames', InOrder base frames' (c.perform a) := by
  obtain ⟨frames', hflow⟩ := flow_perform hc.toFlow hc.parted ha
  exact ⟨frames', hflow, hc.parted.perform a⟩

theorem start_inOrder (h : Home) (p : Pipe) (leftover : Bytes) (owner : Principal) :
    InOrder p.written [] (start h p leftover owner) := by
  have hs := start_session h p leftover owner
  refine ⟨⟨⟨_, hs⟩, ?_, List.nil_prefix, rfl, ?_, ?_⟩, nofun⟩
  · intro _
    unfold queue
    rw [queueOf_of_get? hs]
    rfl
  · intro _
    show [] ++ p.written ++ [] = p.written ++ []
    rw [List.nil_append]
  · exact List.prefix_append _ _

/-- The order holds throughout every course. -/
theorem run_inOrder (h : Home) (p : Pipe) (leftover : Bytes) (owner : Principal)
    (happenings : List Happening) (htame : ∀ a ∈ happenings, a.Tame) :
    ∃ frames, InOrder p.written frames ((start h p leftover owner).run happenings) :=
  run_invariant (P := fun c => ∃ frames, InOrder p.written frames c)
    (fun _ _ hc ha => hc.elim fun _ hc => inOrder_perform hc ha)
    ⟨[], start_inOrder h p leftover owner⟩ happenings htame

/-- At every moment of every course of a session, what is written to the client is a prefix of the
octets of a row of frames, one after another; the texts of these are a prefix of the texts that the
session has accepted, in the order of acceptance. While the session is open, the texts accepted
beyond them are those in the queue; only a session that has ended may lose them. -/
theorem texts_written_in_order (h : Home) (p : Pipe) (leftover : Bytes) (owner : Principal)
    (happenings : List Happening) (htame : ∀ a ∈ happenings, a.Tame) :
    let c := (start h p leftover owner).run happenings
    ∃ frames : List Sent,
      c.written <+: p.written ++ octetsOf frames ∧ textsOf frames <+: c.accepted ∧
        (c.task.stage.isOpen = true → c.accepted = textsOf frames ++ c.queue ∧
          c.written ++ c.task.wire.out = p.written ++ octetsOf frames) := by
  intro c
  obtain ⟨frames, hc⟩ := run_inOrder h p leftover owner happenings htame
  refine ⟨frames, hc.written_prefix, ?_, ?_⟩
  · rw [hc.texts_eq]
    exact hc.wrote_prefix
  · intro hopen
    rw [hc.texts_eq]
    exact ⟨hc.accepted_eq hopen, hc.octets_eq (Stage.mayWrite_of_isOpen hopen)⟩

/-- Two texts sent before the task looks into its queue. -/
def twoSends : List Happening :=
  let m : Moment := { stop := false, now := 0 }
  [.step m, .send "a", .send "b", .step m, .step m]

/-- Of two texts that were sent, one is on the wire and one in the queue. -/
theorem twoSends_written_in_order :
    (∀ a ∈ twoSends, a.Tame) ∧
    ((start {} {} [] ⟨"eve", .control⟩).run twoSends).accepted = ["a", "b"] ∧
    ((start {} {} [] ⟨"eve", .control⟩).run twoSends).written = [129, 1, 97] ∧
    let c := (start {} {} [] ⟨"eve", .control⟩).run twoSends
    ∃ frames : List Sent,
      c.written <+: ({} : Pipe).written ++ octetsOf frames ∧ textsOf frames <+: c.accepted ∧
        (c.task.stage.isOpen = true → c.accepted = textsOf frames ++ c.queue ∧
          c.written ++ c.task.wire.out = ({} : Pipe).written ++ octetsOf frames) := by
  have htame : ∀ a ∈ twoSends, a.Tame := by
    intro a ha
    have hcommands : Home.commands.SendsOnly := Home.commands_sendsOnly
    simp only [twoSends, List.mem_cons, List.not_mem_nil, or_false] at ha
    rcases ha with rfl | rfl | rfl | rfl | rfl <;> first | exact hcommands | trivial
  exact ⟨htame, by decide +kernel, by decide +kernel, texts_written_in_order _ _ _ _ _ htame⟩

end Course

end DeviceGateway.Channel
