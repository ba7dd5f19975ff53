import DeviceGateway.Proofs.Channel.Outbound
import DeviceGateway.Proofs.Channel.Queue

/-
  Everything that one step of a session's task can be (`Took`), each with what holds when it is
  that. Facts about steps are proved by cases on it; nothing else opens `Task.step`.
-/

open DeviceGateway.Stream (Pipe Poll Progress)

namespace DeviceGateway.Channel

/-- Does the task still serve its client? -/
def Stage.isOpen : Stage → Bool
  | .ready | .waiting | .listening | .writing _ | .answering _ => true
  | _ => false

/-- May the task still write? -/
def Stage.mayWrite : Stage → Bool
  | .ready | .waiting | .listening | .writing _ | .answering _ => true
  | .left (.close _) | .closing _ => true
  | _ => false

theorem Stage.mayWrite_of_isOpen {stage : Stage} (h : stage.isOpen = true) :
    stage.mayWrite = true := by
  cases stage <;> first | rfl | cases h

/-- Only on a broken connection is no close frame attempted. -/
theorem Exit.farewell_eq_none {e : Exit} : e.farewell = none ↔ e = .broken := by
  cases e <;> simp [farewell]

namespace Task

/-- The home with the session's queue cut down to `rest`. -/
def popped (h : Home) (t : Task) (s : Session) (rest : List String) : Home :=
  { h with sessions := h.sessions.modify t.session fun _ => { s with queue := rest } }

/-- What a step of the task is, `s` being its session. -/
inductive Took (m : Moment) (h : Home) (p : Pipe) (t : Task) (s : Session) : Taken → Prop
  | overflow (hstage : t.stage = .ready) (hstate : s.state ≠ .accepting) :
      Took m h p t s (t.leave h p (.close .overflow))
  | checked (hstage : t.stage = .ready) (hstate : s.state = .accepting) :
      Took m h p t s { home := h, pipe := p, task := { t with stage := .waiting } }
  | dropped {text : String} {rest : List String} (hstage : t.stage = .waiting)
      (hqueue : s.queue = text :: rest) (hstop : m.stop = true) :
      Took m h p t s (t.leave (t.popped h s rest) p (.close .goingAway))
  | wrote {text : String} {rest : List String} (hstage : t.stage = .waiting)
      (hqueue : s.queue = text :: rest) (hstop : m.stop = false) :
      Took m h p t s
        { deed := .wrote text, home := t.popped h s rest, pipe := p
          task := { t with
            wire := t.wire.queue (Frame.outgoing .text (utf8 text))
            stage := .writing (m.now + m.deadlines.channelWrite) } }
  | turned (hstage : t.stage = .waiting) (hqueue : s.queue = [])
      (hwork : (t.listen m h p s.owner).isSome = true) :
      Took m h p t s { home := h, pipe := p, task := { t with stage := .listening } }
  | slept (hstage : t.stage = .listening) (hnone : t.listen m h p s.owner = none) :
      Took m h p t s { home := h, pipe := p, task := { t with stage := .waiting } }
  | flushed (hstage : t.stage = .listening) (howes : t.wire.owes = true)
      (hadvanced : t.wire.advanced (t.wire.flush p).1 = true) :
      Took m h p t s
        { home := h, pipe := (t.wire.flush p).2.1
          task := { t with wire := (t.wire.flush p).1 } }
  | lost (hstage : t.stage = .listening) (hfailed : (t.wire.flush p).2.2 = .failed) :
      Took m h p t s (t.leave h (t.wire.flush p).2.1 .broken)
  | faulted {f : FrameFault} (hstage : t.stage = .listening)
      (hquiet : t.wire.Quiet p) (hmessage : t.wire.receiver.message = .error f) :
      Took m h p t s (t.leave h p f.exit)
  | handled {receiver : Receiver} {message : Message} (hstage : t.stage = .listening)
      (hquiet : t.wire.Quiet p)
      (hmessage : t.wire.receiver.message = .ok (receiver, some message)) :
      Took m h p t s ({ t with wire := { t.wire with receiver } }.handle m h p s.owner message)
  | read {receiver : Receiver} {bs : Bytes} {p' : Pipe} (hstage : t.stage = .listening)
      (hquiet : t.wire.Quiet p) (hmessage : t.wire.receiver.message = .ok (receiver, none))
      (hread : p.read p.incoming.length = (p', .ready (.octets bs))) :
      Took m h p t s
        { home := h, pipe := p'
          task := { t with wire := { t.wire with
            receiver := { receiver with buffer := receiver.buffer ++ bs } } } }
  | hungUp {receiver : Receiver} {p' : Pipe} (hstage : t.stage = .listening)
      (hquiet : t.wire.Quiet p) (hmessage : t.wire.receiver.message = .ok (receiver, none))
      (hread : p.read p.incoming.length = (p', .ready .ended)) :
      Took m h p t s
        ({ t with wire := { t.wire with receiver, isOpen := false } }.leave h p'
          (FrameFault.exit .ended))
  | unreadable {receiver : Receiver} {p' : Pipe} (hstage : t.stage = .listening)
      (hquiet : t.wire.Quiet p) (hmessage : t.wire.receiver.message = .ok (receiver, none))
      (hread : p.read p.incoming.length = (p', .ready .failed)) :
      Took m h p t s ({ t with wire := { t.wire with receiver } }.leave h p' .broken)
  | stopped {receiver : Receiver} {p' : Pipe} (hstage : t.stage = .listening)
      (hquiet : t.wire.Quiet p) (hmessage : t.wire.receiver.message = .ok (receiver, none))
      (hread : p.read p.incoming.length = (p', .pending)) (hstop : m.stop = true) :
      Took m h p t s ({ t with wire := { t.wire with receiver } }.leave h p' (.close .goingAway))
  | interrupted {deadline : Nat} (hstage : t.stage = .writing deadline) (hstop : m.stop = true) :
      Took m h p t s (t.leave h p (.close .goingAway))
  | written {deadline : Nat} (hstage : t.stage = .writing deadline) (hstop : m.stop = false)
      (hdone : (t.wire.flush p).2.2 = .done) :
      Took m h p t s
        { home := h, pipe := (t.wire.flush p).2.1
          task := { t with wire := (t.wire.flush p).1, stage := .ready } }
  | stalled {deadline : Nat} (hstage : t.stage = .writing deadline) (hstop : m.stop = false)
      (hundone : (t.wire.flush p).2.2 ≠ .done)
      (hdue : (t.wire.flush p).2.2 = .blocked → deadline ≤ m.now) :
      Took m h p t s
        ({ t with wire := (t.wire.flush p).1 }.leave h (t.wire.flush p).2.1 .broken)
  | pushed {deadline : Nat} (hstage : t.stage = .writing deadline ∨ t.stage = .closing deadline)
      (hblocked : (t.wire.flush p).2.2 = .blocked)
      (hstop : t.stage = .writing deadline → m.stop = false) (hearly : m.now < deadline)
      (hadvanced : t.wire.advanced (t.wire.flush p).1 = true) :
      Took m h p t s
        { home := h, pipe := (t.wire.flush p).2.1
          task := { t with wire := (t.wire.flush p).1 } }
  | answered {text : String} (hstage : t.stage = .answering text) :
      Took m h p t s (t.answer h p text)
  | retired {e : Exit} (hstage : t.stage = .left e) : Took m h p t s (t.retire m h p e)
  | closed {deadline : Nat} (hstage : t.stage = .closing deadline)
      (hdue : (t.wire.flush p).2.2 = .blocked → deadline ≤ m.now) :
      Took m h p t s
        { home := h, pipe := (t.wire.flush p).2.1
          task := { t with
            wire := (t.wire.flush p).1
            stage := .leaving (m.now + m.deadlines.shutdownStage) } }
  | finished {deadline : Nat} {p' : Pipe} {outcome : Poll Bool}
      (hstage : t.stage = .leaving deadline) (hpipe : p' = p ∨ p' = p.close)
      (hshut : p.shutdown = (p', outcome))
      (hdue : outcome = .pending → deadline ≤ m.now) : Took m h p t s (finish h p' t outcome)

variable {m : Moment} {h : Home} {p : Pipe} {t : Task} {s : Session} {taken : Taken}

theorem receive_took (hstage : t.stage = .listening) (hquiet : t.wire.Quiet p)
    (hstep : t.receive m h p s.owner = some taken) : Took m h p t s taken := by
  unfold receive at hstep
  split at hstep
  · next f hf =>
    cases hstep
    exact .faulted hstage hquiet hf
  · next receiver message hm =>
    cases hstep
    exact .handled hstage hquiet hm
  · next receiver hm =>
    dsimp only at hstep
    split at hstep
    · next p' bs hread =>
      cases hstep
      exact .read hstage hquiet hm hread
    · next p' hread =>
      cases hstep
      exact .hungUp hstage hquiet hm hread
    · next p' hread =>
      cases hstep
      exact .unreadable hstage hquiet hm hread
    · next p' hread =>
      unfold idle at hstep
      split at hstep
      · next hstop =>
        cases hstep
        exact .stopped hstage hquiet hm hread hstop
      · cases hstep

theorem listen_took (hstage : t.stage = .listening)
    (hstep : t.listen m h p s.owner = some taken) : Took m h p t s taken := by
  unfold listen at hstep
  split at hstep
  · next howes =>
    split at hstep
    · next wire p' hflush =>
      cases hstep
      have hfailed : (t.wire.flush p).2.2 = .failed := by rw [hflush]
      have hpipe : p' = (t.wire.flush p).2.1 := by rw [hflush]
      subst hpipe
      exact .lost hstage hfailed
    · next wire p' progress hok hflush =>
      have hwire : wire = (t.wire.flush p).1 := by rw [hflush]
      have hpipe : p' = (t.wire.flush p).2.1 := by rw [hflush]
      subst hwire hpipe
      split at hstep
      · next hadvanced =>
        cases hstep
        exact .flushed hstage howes hadvanced
      · next hidle =>
        -- a flush that got nowhere has not touched the pipe either
        rw [Bool.not_eq_true] at hidle
        rw [Wire.flush_idle howes hidle] at hstep
        exact receive_took hstage (fun _ => hidle) hstep
  · next hnone => exact receive_took hstage (fun howes => absurd howes hnone) hstep

/-- What becomes of a push: done, failed or late, or under way. -/
theorem push_cases {deadline now : Nat} {done failed : Task → Pipe → Taken}
    (hstep : t.push h p deadline now done failed = some taken) :
    ((t.wire.flush p).2.2 = .done ∧
      taken = done { t with wire := (t.wire.flush p).1 } (t.wire.flush p).2.1) ∨
    ((t.wire.flush p).2.2 ≠ .done ∧ ((t.wire.flush p).2.2 = .blocked → deadline ≤ now) ∧
      taken = failed { t with wire := (t.wire.flush p).1 } (t.wire.flush p).2.1) ∨
    ((t.wire.flush p).2.2 = .blocked ∧ now < deadline ∧
      t.wire.advanced (t.wire.flush p).1 = true ∧
      taken = { home := h, pipe := (t.wire.flush p).2.1
                task := { t with wire := (t.wire.flush p).1 } }) := by
  unfold push at hstep
  split at hstep
  · next wire p' hflush =>
    cases hstep
    exact Or.inl ⟨by rw [hflush], by rw [hflush]⟩
  · next wire p' hflush =>
    cases hstep
    exact Or.inr (Or.inl ⟨by rw [hflush]; simp, by rw [hflush]; simp, by rw [hflush]⟩)
  · next wire p' hflush =>
    split at hstep
    · next hdue =>
      cases hstep
      exact Or.inr (Or.inl ⟨by rw [hflush]; simp, fun _ => hdue, by rw [hflush]⟩)
    · next hearly =>
      split at hstep
      · next hadvanced =>
        cases hstep
        rw [hflush]
        exact Or.inr (Or.inr ⟨rfl, Nat.lt_of_not_le hearly, hadvanced, rfl⟩)
      · cases hstep

theorem serve_took (hstage : t.stage = .waiting) (hstep : t.serve m h p s = some taken) :
    Took m h p t s taken := by
  unfold serve Session.take? at hstep
  cases hqueue : s.queue with
  | nil =>
    rw [hqueue] at hstep
    dsimp only at hstep
    split at hstep
    · next hwork =>
      cases hstep
      exact .turned hstage hqueue hwork
    · cases hstep
  | cons text rest =>
    rw [hqueue] at hstep
    dsimp only at hstep
    split at hstep
    · next hstop =>
      cases hstep
      exact .dropped hstage hqueue hstop
    · next hstop =>
      cases hstep
      exact .wrote hstage hqueue (Bool.not_eq_true _ ▸ hstop)

/-- A shutdown closes the pipe, or leaves it as it is. -/
theorem shutdown_cases {p' : Pipe} {done : Poll Bool}
    (hshut : p.shutdown = (p', done)) : p' = p ∨ p' = p.close := by
  unfold Pipe.shutdown at hshut
  split at hshut <;> cases hshut
  · exact Or.inr rfl
  · exact Or.inl rfl
  · exact Or.inl rfl

/-- Every step is one of these. -/
theorem step_took (hs : h.sessions.get? t.session = some s)
    (hstep : t.step m h p = some taken) : Took m h p t s taken := by
  unfold step at hstep
  rw [hs] at hstep
  dsimp only at hstep
  split at hstep
  · next hstage =>
    split at hstep
    · next hstate =>
      cases hstep
      exact .overflow hstage hstate
    · next hstate =>
      cases hstep
      exact .checked hstage (Decidable.not_not.mp hstate)
  · next hstage => exact serve_took hstage hstep
  · next hstage =>
    cases hlisten : t.listen m h p s.owner with
    | none =>
      rw [hlisten] at hstep
      cases hstep
      exact .slept hstage hlisten
    | some taken' =>
      rw [hlisten] at hstep
      cases hstep
      exact listen_took hstage hlisten
  · next deadline hstage =>
    split at hstep
    · next hstop =>
      cases hstep
      exact .interrupted hstage hstop
    · next hstop =>
      rw [Bool.not_eq_true] at hstop
      rcases push_cases hstep with
        ⟨hdone, rfl⟩ | ⟨hundone, hdue, rfl⟩ | ⟨hblocked, hearly, hadvanced, rfl⟩
      · exact .written hstage hstop hdone
      · exact .stalled hstage hstop hundone hdue
      · exact .pushed (Or.inl hstage) hblocked (fun _ => hstop) hearly hadvanced
  · next text hstage =>
    cases hstep
    exact .answered hstage
  · next e hstage =>
    cases hstep
    exact .retired hstage
  · next deadline hstage =>
    rcases push_cases hstep with
      ⟨hdone, rfl⟩ | ⟨_, hdue, rfl⟩ | ⟨hblocked, hearly, hadvanced, rfl⟩
    · exact .closed hstage fun h => by cases hdone.symm.trans h
    · exact .closed hstage hdue
    · exact .pushed (Or.inr hstage) hblocked (fun h => by cases hstage.symm.trans h) hearly
        hadvanced
  · next deadline hstage =>
    split at hstep
    · next p' _ hshut =>
      cases hstep
      exact .finished hstage (shutdown_cases hshut) hshut fun h => by cases h
    · next p' hshut =>
      split at hstep
      · next hdue =>
        cases hstep
        exact .finished hstage (shutdown_cases hshut) hshut fun _ => hdue
      · cases hstep
  · cases hstep

/-- A task without a session takes no step. -/
theorem exists_session_of_step (hstep : t.step m h p = some taken) :
    ∃ s, h.sessions.get? t.session = some s := by
  cases hs : h.sessions.get? t.session with
  | none =>
    unfold step at hstep
    rw [hs] at hstep
    cases hstep
  | some s => exact ⟨s, rfl⟩

/-- Whatever a message is, it is handled without a look at the pipe or at later octets. -/
theorem handle_kept (m : Moment) (h : Home) (p : Pipe) (t : Task) (owner : Principal)
    (message : Message) :
    (t.handle m h p owner message).pipe = p ∧
    (t.handle m h p owner message).task.session = t.session ∧
    (t.handle m h p owner message).task.wire.receiver = t.wire.receiver := by
  unfold handle
  split
  · split <;> exact ⟨rfl, rfl, rfl⟩
  all_goals exact ⟨rfl, rfl, rfl⟩

/-- Without leave to send a close frame, the shutdown begins with what follows it. -/
theorem retire_of_closed {e : Exit} (hclosed : t.wire.isOpen = false) : t.retire m h p e =
    { deed := .parted e.farewell, home := t.mark .closing h, pipe := p
      task := { t with stage := .leaving (m.now + m.deadlines.shutdownStage) } } := by
  unfold retire Wire.close?
  rw [hclosed]
  cases e <;> rfl

theorem retire_of_open {e : Exit} {close : Option Close} (he : e.farewell = some close)
    (hopen : t.wire.isOpen = true) : t.retire m h p e =
      { deed := .parted (some close), home := t.mark .closing h, pipe := p
        task := { t with
          wire := { t.wire.queue (Frame.outgoing .close ((close.map Close.payload).getD [])) with
            isOpen := false }
          stage := .closing (m.now + m.deadlines.shutdownStage) } } := by
  unfold retire Wire.close?
  rw [he]
  dsimp only [Option.bind_some]
  rw [if_pos hopen]

/-- The shutdown begins with what follows a close frame, or with the close frame that it is to
send. -/
theorem retire_cases (m : Moment) (h : Home) (p : Pipe) (t : Task) (e : Exit) :
    t.retire m h p e =
      { deed := .parted e.farewell, home := t.mark .closing h, pipe := p
        task := { t with stage := .leaving (m.now + m.deadlines.shutdownStage) } } ∨
    ∃ close, e.farewell = some close ∧ t.wire.isOpen = true := by
  cases hopen : t.wire.isOpen with
  | false => exact Or.inl (retire_of_closed hopen)
  | true =>
    cases he : e.farewell with
    | some close => exact Or.inr ⟨close, rfl, rfl⟩
    | none =>
      obtain rfl := Exit.farewell_eq_none.mp he
      exact Or.inl rfl

/-- To the session itself, a message that is handled is at most texts sent in turn. -/
theorem handle_sends (hs : h.sessions.get? t.session = some s) (hm : m.commands.SendsOnly)
    (p : Pipe) (owner : Principal) (message : Message) : ∃ texts,
      (t.handle m h p owner message).home.sessions.get? t.session = some (s.sendAll texts).1 := by
  unfold handle
  split
  · split
    · exact ⟨[], hs⟩
    · next request _ => exact hm.dispatch { owner, request, session := t.session } h _ s hs
  all_goals exact ⟨[], hs⟩

/-- A message is handled, or it ends the open state. -/
theorem handle_deed (m : Moment) (h : Home) (p : Pipe) (t : Task) (owner : Principal)
    (message : Message) : (t.handle m h p owner message).deed = .handled message ∨
      ∃ e, (t.handle m h p owner message).deed = .left e ∧
        (t.handle m h p owner message).task.stage = .left e := by
  unfold handle
  split
  · split
    · exact Or.inr ⟨_, rfl, rfl⟩
    · exact Or.inl rfl
  · exact Or.inr ⟨_, rfl, rfl⟩
  · exact Or.inl rfl
  · exact Or.inl rfl
  · exact Or.inr ⟨_, rfl, rfl⟩

/-- A task keeps its session. -/
theorem Took.session_eq (htook : Took m h p t s taken) : taken.task.session = t.session := by
  cases htook
  case handled receiver message _ _ _ => exact (handle_kept m h p _ s.owner message).2.1
  case retired e _ =>
    rcases retire_cases m h p t e with heq | ⟨close, he, hopen⟩
    · rw [heq]
    · rw [retire_of_open he hopen]
  all_goals rfl

/-- In the shutdown, nothing is served. -/
theorem retire_shut (m : Moment) (h : Home) (p : Pipe) (t : Task) (e : Exit) :
    (t.retire m h p e).task.stage.isOpen = false := by
  rcases retire_cases m h p t e with heq | ⟨close, he, hopen⟩
  · rw [heq]
    rfl
  · rw [retire_of_open he hopen]
    rfl

end Task

end DeviceGateway.Channel
