import DeviceGateway.Proofs.Channel.Rest

/-
  The step that is due. `Took` says what a step can be; here is, stage by stage, which it is, when
  the client reads all that is written and no signal stops the task.
-/

open DeviceGateway.Stream (Pipe)

namespace DeviceGateway.Channel

namespace Task

variable {m : Moment} {h : Home} {p : Pipe} {t : Task} {s : Session}

section

variable (hs : h.sessions.get? t.session = some s)

include hs

theorem step_checks (hstage : t.stage = .ready) (hstate : s.state = .accepting) :
    t.step m h p = some { home := h, pipe := p, task := { t with stage := .waiting } } := by
  unfold step
  rw [hs]
  dsimp only
  rw [hstage]
  dsimp only
  rw [if_neg (not_not_intro hstate)]

theorem step_overflows (hstage : t.stage = .ready) (hstate : s.state ≠ .accepting) :
    t.step m h p = some (t.leave h p (.close .overflow)) := by
  unfold step
  rw [hs]
  dsimp only
  rw [hstage]
  dsimp only
  rw [if_pos hstate]

theorem step_writes (hstop : m.stop = false) (hstage : t.stage = .waiting) {text : String}
    {rest : List String} (hqueue : s.queue = text :: rest) :
    t.step m h p = some {
      deed := .wrote text, home := t.popped h s rest, pipe := p
      task := { t with
        wire := t.wire.queue (Frame.outgoing .text (utf8 text))
        stage := .writing (m.now + m.deadlines.channelWrite) } } := by
  unfold step
  rw [hs]
  dsimp only
  rw [hstage]
  dsimp only
  unfold serve Session.take?
  rw [hqueue, hstop]
  rfl

theorem step_turns (hp : p.Reads) (hstop : m.stop = false) (hstage : t.stage = .waiting)
    (hqueue : s.queue = []) (hwork : t.hasWork p = true) :
    t.step m h p = some { home := h, pipe := p, task := { t with stage := .listening } } := by
  unfold step
  rw [hs]
  dsimp only
  rw [hstage]
  dsimp only
  unfold serve Session.take?
  rw [hqueue]
  dsimp only
  rw [listen_isSome hp hstop, hwork, if_pos rfl]

theorem step_listens (hstage : t.stage = .listening) :
    t.step m h p = some ((t.listen m h p s.owner).getD
      { home := h, pipe := p, task := { t with stage := .waiting } }) := by
  unfold step
  rw [hs]
  dsimp only
  rw [hstage]

theorem step_pushes (hp : p.Reads) (hstop : m.stop = false) {deadline : Nat}
    (hstage : t.stage = .writing deadline) :
    t.step m h p = some {
      home := h, pipe := (t.wire.flush p).2.1
      task := { t with wire := (t.wire.flush p).1, stage := .ready } } := by
  obtain ⟨out, hflush⟩ := Wire.flush_of_reads hp t.wire
  unfold step
  rw [hs]
  dsimp only
  rw [hstage, hstop]
  dsimp only
  unfold push
  rw [hflush]
  rfl

theorem step_answers {text : String} (hstage : t.stage = .answering text) :
    t.step m h p = some (t.answer h p text) := by
  unfold step
  rw [hs]
  dsimp only
  rw [hstage]

theorem step_retires {e : Exit} (hstage : t.stage = .left e) :
    t.step m h p = some (t.retire m h p e) := by
  unfold step
  rw [hs]
  dsimp only
  rw [hstage]

theorem step_closes (hp : p.Reads) {deadline : Nat} (hstage : t.stage = .closing deadline) :
    t.step m h p = some {
      home := h, pipe := (t.wire.flush p).2.1
      task := { t with
        wire := (t.wire.flush p).1
        stage := .leaving (m.now + m.deadlines.shutdownStage) } } := by
  obtain ⟨out, hflush⟩ := Wire.flush_of_reads hp t.wire
  unfold step
  rw [hs]
  dsimp only
  rw [hstage]
  dsimp only
  unfold push
  rw [hflush]

theorem step_finishes (hp : p.Reads) {deadline : Nat} (hstage : t.stage = .leaving deadline) :
    t.step m h p = some (finish h p.close t (.ready true)) := by
  unfold step
  rw [hs]
  dsimp only
  rw [hstage]
  dsimp only
  rw [Pipe.shutdown_of_reads hp]

end

/-! ### What a listening task does -/

variable {owner : Principal}

theorem listen_flushes (hp : p.Reads) (howes : t.wire.owes = true) :
    t.listen m h p owner = some {
      home := h, pipe := (t.wire.flush p).2.1
      task := { t with wire := (t.wire.flush p).1 } } := by
  have hadvanced : t.wire.advanced (t.wire.flush p).1 = true := by
    cases hidle : t.wire.advanced (t.wire.flush p).1 with
    | true => rfl
    | false =>
      have hquiet := Wire.quiet_of_reads hp fun _ => hidle
      cases howes.symm.trans hquiet
  have hdone := Wire.flush_done_of_reads hp t.wire
  unfold listen
  rw [if_pos howes]
  split
  · next hflush =>
    rw [hflush] at hdone
    cases hdone
  · next hflush =>
    rw [hflush] at hadvanced ⊢
    rw [if_pos hadvanced]

theorem listen_receives (howes : t.wire.owes = false) :
    t.listen m h p owner = t.receive m h p owner := by
  unfold listen
  rw [howes]
  rfl

theorem receive_faults {f : FrameFault} (hmessage : t.wire.receiver.message = .error f) :
    t.receive m h p owner = some (t.leave h p f.exit) := by
  unfold receive
  rw [hmessage]

theorem receive_handles {receiver : Receiver} {message : Message}
    (hmessage : t.wire.receiver.message = .ok (receiver, some message)) :
    t.receive m h p owner =
      some ({ t with wire := { t.wire with receiver } }.handle m h p owner message) := by
  unfold receive
  rw [hmessage]

theorem receive_reads (hp : p.Reads) {receiver : Receiver}
    (hmessage : t.wire.receiver.message = .ok (receiver, none)) (hincoming : p.incoming ≠ []) :
    t.receive m h p owner = some {
      home := h, pipe := { p with incoming := [] }
      task := { t with wire := { t.wire with receiver := receiver.push p.incoming } } } := by
  unfold receive
  rw [hmessage, Pipe.read_of_reads hp, if_neg hincoming]
  rfl

theorem receive_ends (hp : p.Reads) {receiver : Receiver}
    (hmessage : t.wire.receiver.message = .ok (receiver, none)) (hincoming : p.incoming = [])
    (hended : p.ended = true) :
    t.receive m h p owner = some ({ t with wire := { t.wire with receiver, isOpen := false } }.leave
      h p (FrameFault.exit .ended)) := by
  unfold receive
  rw [hmessage, Pipe.read_of_reads hp, if_pos hincoming, hended]
  rfl

theorem receive_rests (hp : p.Reads) (hstop : m.stop = false) {receiver : Receiver}
    (hmessage : t.wire.receiver.message = .ok (receiver, none)) (hincoming : p.incoming = [])
    (hended : p.ended = false) : t.receive m h p owner = none := by
  unfold receive
  rw [hmessage, Pipe.read_of_reads hp, if_pos hincoming, hended]
  dsimp only
  unfold idle
  rw [hstop]
  rfl

end Task

end DeviceGateway.Channel
