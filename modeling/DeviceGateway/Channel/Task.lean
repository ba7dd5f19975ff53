import DeviceGateway.Channel.Close
import DeviceGateway.Home.State
import DeviceGateway.Settings.Basic
import DeviceGateway.Stream.Pipe

/-
  The task that runs a session. One task writes and reads in turn, so texts leave in the order of
  the queue and a response is written before the next message is handled. While it serves, the
  queue comes before the client's messages, and these before the shutdown signal. Then it sends its
  close frame and shuts the connection down; each of these stages has a deadline of its own, and
  a stage that fails never holds up the next.
-/

open DeviceGateway.Stream (Pipe Poll Progress)

namespace DeviceGateway.Channel

/-- The framing of a channel: its reading end, the octets that wait to be written, the pong that
is owed, and whether frames may still be sent. -/
structure Wire where
  receiver : Receiver := {}
  out : Bytes := []
  pong : Option Bytes := none
  isOpen : Bool := true
  deriving DecidableEq, Repr

namespace Wire

/-- The octets of the pong that is owed. -/
def pongOctets (w : Wire) : Bytes :=
  match w.pong with
  | some data => Frame.outgoing .pong data
  | none => []

/-- The framing with octets to be written, the owed pong behind them. -/
def queue (w : Wire) (octets : Bytes) : Wire :=
  { w with out := w.out ++ octets ++ w.pongOctets, pong := none }

/-- Writes what waits to be written. -/
def flush (w : Wire) (p : Pipe) : Wire × Pipe × Progress :=
  let w := w.queue []
  let (p, rest, progress) := p.write w.out
  ({ w with out := rest }, p, progress)

/-- Is there anything to be written? -/
def owes (w : Wire) : Bool := !w.out.isEmpty || w.pong.isSome

/-- Did a flush of `w` that left `w'` get anywhere? -/
def advanced (w w' : Wire) : Bool := w.pong.isSome || w'.out.length < w.out.length

/-- The framing with a close frame to be written, with a code or without one, unless no frame may be
sent any more. -/
def close? (w : Wire) (close : Option Close) : Option Wire :=
  if w.isOpen then
    let payload := (close.map Close.payload).getD []
    some { w.queue (Frame.outgoing .close payload) with isOpen := false }
  else none

end Wire

/-- Where a task stands. Deadlines are times of the clock. -/
inductive Stage
  /-- About to look at the state of the session. -/
  | ready
  /-- About to look into the queue, or asleep until there is something to do. -/
  | waiting
  /-- Found the queue empty; about to look for a message, and then for the signal. -/
  | listening
  /-- Writing a text. -/
  | writing (deadline : Nat)
  /-- About to put the answer to a request into the queue. -/
  | answering (text : String)
  /-- The open state has ended; nothing of the shutdown is done. -/
  | left (e : Exit)
  /-- Writing the close frame. -/
  | closing (deadline : Nat)
  /-- Shutting the connection down. -/
  | leaving (deadline : Nat)
  | ended
  deriving DecidableEq, Repr

/-- Does a step from one stage to another stand for nothing by itself? -/
def Stage.passes : Stage → Stage → Bool
  | .ready, .waiting => true
  | _, .listening => true
  | _, .answering _ => true
  | _, .left _ => true
  | _, _ => false

/-- The task of a session. -/
structure Task where
  session : Nat
  wire : Wire := {}
  stage : Stage := .ready
  deriving DecidableEq, Repr

/-- What a step of a task amounts to. -/
inductive Deed
  /-- A text of the queue was framed. -/
  | wrote (text : String)
  /-- A message of the client was handled. -/
  | handled (m : Message)
  /-- The answer to a request was sent to the session, which accepted it or did not. -/
  | answered (text : String) (accepted : Bool)
  /-- The open state ended. -/
  | left (e : Exit)
  /-- The shutdown began. A close frame was attempted, with a code or without one, or none was. -/
  | parted (farewell : Option (Option Close))
  /-- The connection was asked to shut down, and answered so; it was pending to the end when its
  deadline ended it. -/
  | shut (outcome : Poll Bool)
  /-- The task went on within its stage or to the next. -/
  | moved
  deriving Repr

/-- What a task knows when it takes a step: the deadlines, the commands, the signal and the
time. -/
structure Moment where
  deadlines : Settings.Deadlines := {}
  commands : CommandTable Home := Home.commands
  stop : Bool
  now : Nat

/-- The home, the connection and the task, after a step. -/
structure Taken where
  deed : Deed := .moved
  home : Home
  pipe : Pipe
  task : Task

namespace Task

/-- A new session of the home, registered for broadcasts, and the task that is to run it;
`leftover` has been read from its client already. -/
def accept (h : Home) (leftover : Bytes) (owner : Principal) : Home × Task :=
  let (sessions, id) := h.sessions.create owner
  ({ h with sessions := sessions.register id },
    { session := id, wire := { receiver := { buffer := leftover } } })

/-- The home with the session in another state. -/
def mark (t : Task) (state : SessionState) (h : Home) : Home :=
  { h with sessions := h.sessions.modify t.session fun s => { s with state } }

/-- Ends the open state. -/
def leave (h : Home) (p : Pipe) (t : Task) (e : Exit) : Taken :=
  { deed := .left e, home := h, pipe := p, task := { t with stage := .left e } }

/-- Begins the shutdown: the session accepts no text from here on. A close frame is attempted,
unless the connection is broken. -/
def retire (m : Moment) (h : Home) (p : Pipe) (t : Task) (e : Exit) : Taken :=
  let deadline := m.now + m.deadlines.shutdownStage
  let task := match e.farewell.bind t.wire.close? with
    | some wire => { t with wire, stage := .closing deadline }
    | none => { t with stage := .leaving deadline }
  { deed := .parted e.farewell, home := t.mark .closing h, pipe := p, task }

/-- Handles a message. The answer to a request is at hand when its handler is done; it is sent in
a step of its own. -/
def handle (m : Moment) (h : Home) (p : Pipe) (t : Task) (owner : Principal) (message : Message) :
    Taken :=
  match message with
  | .text s =>
    match Request.parse s with
    | .error v => t.leave h p v.exit
    | .ok request =>
      let (h, response) := m.commands.dispatch { owner, request, session := t.session } h
      { deed := .handled message, home := h, pipe := p
        task := { t with stage := .answering response.text } }
  | .binary => t.leave h p (Violation.exit .nonTextFrame)
  | .ping data =>
    { deed := .handled message, home := h, pipe := p
      task := { t with wire := { t.wire with pong := some data }, stage := .ready } }
  | .pong => { deed := .handled message, home := h, pipe := p, task := { t with stage := .ready } }
  | .close => { t with wire := { t.wire with isOpen := false } }.leave h p .peerClosed

/-- Sends the answer to a request to the session itself. -/
def answer (h : Home) (p : Pipe) (t : Task) (text : String) : Taken :=
  let (sessions, accepted) := h.sessions.send t.session text
  { deed := .answered text accepted, home := { h with sessions }, pipe := p
    task := { t with stage := .ready } }

/-- Nothing can be done, but the signal ends the session. -/
def idle (m : Moment) (h : Home) (p : Pipe) (t : Task) : Option Taken :=
  if m.stop then some (t.leave h p (.close .goingAway)) else none

/-- Reads: a message that is all there is handled, else more octets are taken. -/
def receive (m : Moment) (h : Home) (p : Pipe) (t : Task) (owner : Principal) : Option Taken :=
  match t.wire.receiver.message with
  | .error f => some (t.leave h p f.exit)
  | .ok (receiver, some message) =>
    some ({ t with wire := { t.wire with receiver } }.handle m h p owner message)
  | .ok (receiver, none) =>
    let t := { t with wire := { t.wire with receiver } }
    match p.read p.incoming.length with
    | (p, .ready (.octets bs)) =>
      some {
        home := h, pipe := p
        task := { t with
          wire := { t.wire with receiver := { receiver with buffer := receiver.buffer ++ bs } } } }
    | (p, .ready .ended) =>
      some ({ t with wire := { t.wire with isOpen := false } }.leave h p (FrameFault.exit .ended))
    | (p, .ready .failed) => some (t.leave h p .broken)
    | (p, .pending) => t.idle m h p

/-- Looks for a message, then for the signal. A pong that is owed leaves before the next message is
read. -/
def listen (m : Moment) (h : Home) (p : Pipe) (t : Task) (owner : Principal) : Option Taken :=
  if t.wire.owes then
    match t.wire.flush p with
    | (_, p, .failed) => some (t.leave h p .broken)
    | (wire, p, _) =>
      if t.wire.advanced wire then some { home := h, pipe := p, task := { t with wire } }
      else t.receive m h p owner
  else t.receive m h p owner

/-- Looks into the queue, and listens when it is empty. A text taken when the signal has fired is
not written. -/
def serve (m : Moment) (h : Home) (p : Pipe) (t : Task) (s : Session) : Option Taken :=
  match s.take? with
  | some (text, s) =>
    let h := { h with sessions := h.sessions.modify t.session fun _ => s }
    if m.stop then some (t.leave h p (.close .goingAway))
    else
      some {
        deed := .wrote text, home := h, pipe := p
        task := { t with
          wire := t.wire.queue (Frame.outgoing .text (utf8 text))
          stage := .writing (m.now + m.deadlines.channelWrite) } }
  | none =>
    if (t.listen m h p s.owner).isSome then
      some { home := h, pipe := p, task := { t with stage := .listening } }
    else none

/-- Goes on writing what waits to be written. -/
def push (h : Home) (p : Pipe) (t : Task) (deadline now : Nat) (done failed : Task → Pipe → Taken) :
    Option Taken :=
  match t.wire.flush p with
  | (wire, p, .done) => some (done { t with wire } p)
  | (wire, p, .failed) => some (failed { t with wire } p)
  | (wire, p', .blocked) =>
    if deadline ≤ now then some (failed { t with wire } p')
    else if t.wire.advanced wire then some { home := h, pipe := p', task := { t with wire } }
    else none

/-- The task when its connection has been shut down, or could not be. -/
def finish (h : Home) (p : Pipe) (t : Task) (outcome : Poll Bool) : Taken :=
  { deed := .shut outcome
    home := { h with
      sessions := h.sessions.modify t.session fun s =>
        { s with state := .closed, listening := false, queue := [] } }
    pipe := p.close
    task := { t with stage := .ended } }

/-- One step, or none while there is nothing to do. -/
def step (m : Moment) (h : Home) (p : Pipe) (t : Task) : Option Taken :=
  match h.sessions.get? t.session with
  | none => none
  | some s =>
    match t.stage with
    | .ready =>
      if s.state ≠ .accepting then some (t.leave h p (.close .overflow))
      else some { home := h, pipe := p, task := { t with stage := .waiting } }
    | .waiting => t.serve m h p s
    | .listening =>
      some ((t.listen m h p s.owner).getD
        { home := h, pipe := p, task := { t with stage := .waiting } })
    | .writing deadline =>
      if m.stop then some (t.leave h p (.close .goingAway))
      else
        t.push h p deadline m.now
          (fun t p => { home := h, pipe := p, task := { t with stage := .ready } })
          (fun t p => t.leave h p .broken)
    | .answering text => some (t.answer h p text)
    | .left e => some (t.retire m h p e)
    | .closing deadline =>
      let next (t : Task) (p : Pipe) : Taken :=
        { home := h, pipe := p
          task := { t with stage := .leaving (m.now + m.deadlines.shutdownStage) } }
      t.push h p deadline m.now next next
    | .leaving deadline =>
      match p.shutdown with
      | (p, .ready done) => some (finish h p t (.ready done))
      | (p, .pending) => if deadline ≤ m.now then some (finish h p t .pending) else none
    | .ended => none

/-- How many steps a turn takes at most. -/
def turnSteps : Nat := 8

/-- Steps up to the next one that stands for something by itself: nobody comes in between when all
tasks take turns on one thread. -/
def turn (fuel : Nat) (m : Moment) (h : Home) (p : Pipe) (t : Task) : Option Taken :=
  match fuel with
  | 0 => none
  | n + 1 =>
    match t.step m h p with
    | none => none
    | some taken =>
      if t.stage.passes taken.task.stage then
        some ((taken.task.turn n m taken.home taken.pipe).getD taken)
      else some taken

/-- When the task moves on by itself, if it does. -/
def deadline? (t : Task) : Option Nat :=
  match t.stage with
  | .writing d => some d
  | .closing d => some d
  | .leaving d => some d
  | _ => none

end Task

end DeviceGateway.Channel
