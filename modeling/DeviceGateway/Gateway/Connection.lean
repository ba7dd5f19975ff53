import DeviceGateway.Gateway.Routes
import DeviceGateway.Http.Wire
import DeviceGateway.Stream.Pipe

/-
  An HTTP connection. Requests are served one after another: a head is read, what has arrived of
  the body is looked at, the request is answered, and the connection is kept or closed. A request
  for a channel ends the connection as one of this kind and hands its octets on. Reads and writes
  that stall, and heads that take too long, end it as well.
-/

namespace DeviceGateway

open DeviceGateway.Stream (Pipe Timers)
open Http (Head Terms Body Portion Reply Version Sending Outgoing)

/-- How the body of a request is being read. -/
inductive Intake
  /-- Not yet: the client waits for a go-ahead. -/
  | held
  | flowing
  /-- To its end. -/
  | over
  /-- No further, and nothing more is read on the connection. -/
  | shut
  deriving DecidableEq, Repr

/-- A request under way. -/
structure Exchange where
  head : Head
  body : Body
  intake : Intake
  /-- What has been read of the body, latest portion first. -/
  portions : List Bytes := []
  /-- The body was malformed, or it broke off. -/
  isBroken : Bool := false
  /-- Who the body is read for. -/
  owner : Option Principal := none
  deriving Repr

namespace Exchange

/-- The exchange that a head and its terms start. -/
def start (head : Head) (terms : Terms) : Exchange :=
  { head, body := terms.body
    intake := if terms.body.isOver then .over else if terms.awaitsGoAhead then .held else .flowing }

/-- How much has been read of the body. -/
def size (x : Exchange) : Nat := x.portions.foldl (fun n bs => n + bs.length) 0

/-- What has been read of the body. -/
def content (x : Exchange) : Bytes := x.portions.reverse.flatten

/-- The exchange with a portion of its body taken. -/
def taking (x : Exchange) (body : Body) : Portion → Exchange
  | .data bs =>
    { x with
      body, portions := bs :: x.portions
      intake := if body.isOver then .over else .flowing }
  | .ended => { x with body, intake := .over }
  | .wanting => { x with body }
  | .broken => { x with body, intake := .shut, isBroken := true }

/-- The exchange when its body breaks off. -/
def breaking (x : Exchange) : Exchange := { x with intake := .shut, isBroken := true }

end Exchange

/-- What follows when a reply has been written. -/
inductive After
  /-- The next request, if the body is out of the way. -/
  | next
  | close
  | channel (owner : Principal)
  deriving Repr

/-- Where a connection stands. -/
inductive Phase
  /-- Waiting for a head, which has to be there in time. -/
  | head (deadline : Nat)
  /-- Taking a first portion of the body. -/
  | opening (x : Exchange)
  /-- Making sure that the client is still there. -/
  | probing (x : Exchange)
  /-- About to answer. -/
  | serving (x : Exchange)
  /-- Reading the body for a resource. -/
  | collecting (x : Exchange)
  /-- A reply has been made. -/
  | replied (x : Exchange) (after : After)
  /-- The body that nobody has read is being passed over. -/
  | draining (x : Exchange) (after : After)
  | closing
  /-- Handed on to a channel. -/
  | handed (owner : Principal)
  | ended
  deriving Repr

/-- An HTTP connection. -/
structure Connection where
  /-- Read and not yet used. -/
  buffer : Bytes := []
  /-- How much of the buffer was looked at in vain for a whole head. -/
  seen : Option Nat := none
  /-- The version of the last request. -/
  version : Version := .http11
  keep : Bool := true
  /-- Some request has asked for another protocol. -/
  upgradeAsked : Bool := false
  timers : Timers := {}
  /-- Waits to be written. -/
  out : Bytes := []
  /-- How much is read at a time, and whether a short read will lessen it. -/
  readSize : Nat := 8192
  lessening : Bool := false
  phase : Phase
  deriving Repr

/-- A connection with its surroundings. -/
structure Served where
  gateway : Gateway
  pipe : Pipe
  connection : Connection

namespace Connection

/-- A connection that waits for its first head. -/
def start (g : Gateway) (now : Nat) : Connection := { phase := .head (now + g.deadlines.httpIdle) }

/-- The limits on reads, writes and the shutdown. -/
def limits (g : Gateway) : Stream.Limits :=
  { read := g.deadlines.httpIdle, write := g.deadlines.httpIdle
    shutdown := g.deadlines.shutdownStage }

/-! ## Octets in and out -/

/-- What trying to read more gives. -/
inductive Reading
  | more
  | nothing
  | ended
  | failed

/-- The read size after a read: it doubles when a read fills it, and two short reads halve it. -/
def adapt (c : Connection) (n : Nat) : Connection :=
  let least := 8192
  if c.readSize ≤ n then
    { c with readSize := min (2 * c.readSize) Http.maxHeadBytes, lessening := false }
  else if n < c.readSize / 2 then
    if c.lessening then { c with readSize := max (c.readSize / 2) least, lessening := false }
    else { c with lessening := true }
  else { c with lessening := false }

/-- Reads more into the buffer. -/
def readMore (g : Gateway) (now : Nat) (p : Pipe) (c : Connection) : Connection × Pipe × Reading :=
  let (p, answer) := p.read c.readSize
  let (timers, answer) := Stream.guard (limits g) c.timers .read now answer
  let c := { c with timers }
  match answer with
  | .ready (.octets bs) => ({ c with buffer := c.buffer ++ bs }.adapt bs.length, p, .more)
  | .ready .ended => (c, p, .ended)
  | .ready .failed => (c, p, .failed)
  | .pending => (c, p, .nothing)
  | .timedOut => (c, p, .failed)

/-- Writes what waits to be written: to the end, or the write stalls, or it fails. -/
def flush (g : Gateway) (now : Nat) (p : Pipe) (c : Connection) :
    Connection × Pipe × Stream.Guarded Bool :=
  let (p, rest, progress) := p.write c.out
  let answer : Stream.Poll Bool := match progress with
    | .done => .ready true
    | .failed => .ready false
    | .blocked => .pending
  let timers := if rest.length < c.out.length then c.timers.set .write none else c.timers
  let (timers, answer) := Stream.guard (limits g) timers .write now answer
  ({ c with out := rest, timers }, p, answer)

/-- Drops the connection where it stands. -/
def abort (g : Gateway) (p : Pipe) (c : Connection) : Served :=
  ⟨g, p.close, { c with phase := .ended }⟩

/-- The connection in another phase. -/
def enter (g : Gateway) (p : Pipe) (c : Connection) (phase : Phase) : Served :=
  ⟨g, p, { c with phase }⟩

/-! ## Heads -/

/-- What an endpoint of another version of the protocol would open with. -/
def otherPreface : Bytes := utf8 "PRI * HTTP/2.0\r\n\r\nSM\r\n\r\n"

/-- Is the octet part of an end of line? -/
def isLineEnd (b : UInt8) : Bool := b == 0x0D || b == 0x0A

/-- Refuses a head and closes. -/
def refuse (g : Gateway) (now : Nat) (p : Pipe) (c : Connection) (status : Nat) : Served :=
  if otherPreface.isPrefixOf (c.buffer.dropWhile isLineEnd) then c.abort g p
  else
    let sent := Reply.refusal status { version := c.version, keep := false, seconds := now / 1000 }
    { c with keep := false, out := c.out ++ sent.octets }.enter g p .closing

/-- Is it worth looking for a head? -/
def mayHoldHead (c : Connection) : Bool :=
  match c.seen with
  | none => !c.buffer.isEmpty
  | some n => Head.isClosed (c.buffer.drop (n - 3))

/-- Starts on a request. -/
def begin (g : Gateway) (p : Pipe) (c : Connection) (head : Head) (terms : Terms) (rest : Bytes) :
    Served :=
  let x := Exchange.start head terms
  let c := { c with
    buffer := rest, seen := none, version := head.version
    keep := c.keep && terms.keepAlive
    upgradeAsked := c.upgradeAsked || terms.asksUpgrade }
  match x.intake with
  | .over => c.enter g p (.probing x)
  | .held => c.enter g p (.serving x)
  | _ => c.enter g p (.opening x)

/-- The head at the front of the buffer, with its terms. -/
def readHead (bs : Bytes) : Except Http.Unread (Head × Terms × Bytes) := do
  let (head, rest) ← Head.read bs
  let terms ← head.terms
  return (head, terms, rest)

/-- Waits for more of a head. A client that leaves, or is silent, between two requests ends the
connection in good order; one that does so within a head does not. -/
def awaitHead (g : Gateway) (now : Nat) (p : Pipe) (c : Connection) (deadline : Nat) :
    Option Served :=
  let leave (c : Connection) (p : Pipe) : Served :=
    if c.buffer.all isLineEnd then c.enter g p .closing else c.abort g p
  match c.readMore g now p with
  | (c, p, .more) => some ⟨g, p, c⟩
  | (c', p, .nothing) =>
    if deadline ≤ now then some (c'.abort g p)
    else if c'.timers = c.timers then none
    else some ⟨g, p, c'⟩
  | (c, p, .ended) => some (leave c p)
  | (c, p, .failed) => some (leave c p)

/-- Reads a head. -/
def takeHead (g : Gateway) (now : Nat) (p : Pipe) (c : Connection) (deadline : Nat) :
    Option Served :=
  let wait (c : Connection) : Option Served :=
    if Http.maxHeadBytes ≤ c.buffer.length then some (c.refuse g now p 431)
    else
      let seen := if c.buffer.isEmpty then none else some c.buffer.length
      { c with seen }.awaitHead g now p deadline
  if c.mayHoldHead then
    match readHead c.buffer with
    | .ok (head, terms, rest) => some (c.begin g p head terms rest)
    | .error .incomplete => wait c
    | .error .malformed => some (c.refuse g now p 400)
    | .error .tooLarge => some (c.refuse g now p 431)
  else wait c

/-! ## Bodies -/

/-- Takes one portion of a body; without enough octets, more are read. -/
def takePortion (g : Gateway) (now : Nat) (p : Pipe) (c : Connection) (x : Exchange)
    (go : Connection → Pipe → Exchange → Served)
    (again waiting : Connection → Pipe → Exchange → Option Served) : Option Served :=
  let (body, rest, portion) := x.body.take c.buffer
  let c := { c with buffer := rest }
  let x := x.taking body portion
  if portion = .wanting then
    match c.readMore g now p with
    | (c, p, .more) => again c p x
    | (c, p, .nothing) => waiting c p x
    | (c, p, .ended) => some (go c p x.breaking)
    | (c, p, .failed) => some (go c p x.breaking)
  else some (go c p x)

/-- The phase that follows a portion: when it was the last, the client has to be there still. -/
def afterPortion (next : Exchange → Phase) (x : Exchange) : Phase :=
  match x.intake with
  | .over => .probing x
  | _ => next x

/-- Takes the first portion, if any of it has arrived. -/
def openBody (g : Gateway) (now : Nat) (p : Pipe) (c : Connection) (x : Exchange) : Option Served :=
  c.takePortion g now p x
    (fun c p x => c.enter g p (afterPortion .serving x))
    (fun c p x => some (c.enter g p (.opening x)))
    (fun c p x => some (c.enter g p (.serving x)))

/-- Reads ahead when nothing is left in the buffer: a client that has gone by now gets no
answer. -/
def probe (g : Gateway) (now : Nat) (p : Pipe) (c : Connection) (x : Exchange) : Served :=
  let next : Phase := if x.owner.isSome then .collecting x else .serving x
  if !c.buffer.isEmpty then c.enter g p next
  else
    match c.readMore g now p with
    | (c, p, .more) => c.enter g p next
    | (c, p, .nothing) => c.enter g p next
    | (c, p, .ended) => c.abort g p
    | (c, p, .failed) => c.abort g p

/-! ## Answers -/

/-- Sends a reply. -/
def answer (g : Gateway) (now : Nat) (p : Pipe) (c : Connection) (x : Exchange) (r : Reply)
    (after : After) : Served :=
  let sent := r.outgoing
    { version := c.version, keep := c.keep, method := x.head.method, seconds := now / 1000 }
  let after := match after with
    | .next => if sent.isLast then .close else .next
    | other => other
  { c with out := c.out ++ sent.octets }.enter g p (.replied x after)

/-- The wording for a body that cannot be read. -/
def unreadableBody : String := "invalid request body"

/-- Answers a request, or finds that its body is needed first. -/
def serve (g : Gateway) (now : Nat) (p : Pipe) (c : Connection) (x : Exchange) : Served :=
  match g.route now x.head with
  | (g, .reply r) => c.answer g now p x r .next
  | (g, .channel owner r) =>
    c.answer g now p x r (if x.head.version = .http11 then .channel owner else .close)
  | (g, .resource owner) =>
    let x := { x with owner := some owner }
    if x.intake = .held then
      { c with out := c.out ++ Http.goAhead }.enter g p (.collecting { x with intake := .flowing })
    else c.enter g p (.collecting x)

/-- Reads the body for a resource, up to its bound, and answers. -/
def collect (g : Gateway) (now : Nat) (p : Pipe) (c : Connection) (x : Exchange) :
    Option Served :=
  if x.isBroken || Http.maxBodyBytes < x.size then
    some (c.answer g now p x (.error unreadableBody) .next)
  else
    match x.intake, x.owner with
    | .flowing, _ =>
      c.takePortion g now p x
        (fun c p x => c.enter g p (afterPortion .collecting x))
        (fun c p x => some (c.enter g p (.collecting x)))
        (fun c' p x => if c'.timers = c.timers then none else some (c'.enter g p (.collecting x)))
    | _, some owner =>
      let (g, r) := g.serveResource owner x.head x.content
      some (c.answer g now p x r .next)
    | _, none => some (c.abort g p)

/-- What follows an exchange. -/
def conclude (g : Gateway) (now : Nat) (p : Pipe) (c : Connection) (x : Exchange) (after : After) :
    Served :=
  match after with
  | .channel owner => c.enter g p (.handed owner)
  | .close => c.enter g p .closing
  | .next =>
    if x.intake = .over then c.enter g p (.head (now + g.deadlines.httpIdle))
    else c.enter g p .closing

/-- Passes over one more portion of a body that nobody has read. -/
def drain (g : Gateway) (now : Nat) (p : Pipe) (c : Connection) (x : Exchange) (after : After) :
    Option Served :=
  match x.intake with
  | .over | .shut => some (c.conclude g now p x after)
  | _ =>
    c.takePortion g now p x
      (fun c p x => c.conclude g now p x after)
      (fun c p x => some (c.enter g p (.draining x after)))
      (fun c p x => some (c.conclude g now p x after))

/-! ## Steps -/

/-- Shuts the connection down. A client that asked for another protocol is just let go. A shutdown
that stalls is asked for again each time, and so never runs out of time. -/
def close (g : Gateway) (now : Nat) (p : Pipe) (c : Connection) : Option Served :=
  if c.upgradeAsked then some (c.abort g p)
  else
    let (p, answer) := p.shutdown
    match Stream.guard (limits g) (c.timers.set .write none) .shutdown now answer with
    | (_, .pending) => none
    | _ => some (c.abort g p)

/-- Goes on in the phase where the connection stands, everything being written. -/
def proceed (g : Gateway) (now : Nat) (p : Pipe) (c : Connection) : Option Served :=
  match c.phase with
  | .head deadline => c.takeHead g now p deadline
  | .opening x => c.openBody g now p x
  | .probing x => some (c.probe g now p x)
  | .serving x => some (c.serve g now p x)
  | .collecting x => c.collect g now p x
  | .replied x after => some (c.enter g p (.draining x after))
  | .draining x after => c.drain g now p x after
  | .closing => c.close g now p
  | .handed _ => none
  | .ended => none

/-- One step, or none while there is nothing to do. -/
def step (g : Gateway) (now : Nat) (p : Pipe) (c : Connection) : Option Served :=
  if c.out.isEmpty then c.proceed g now p
  else
    match c.flush g now p with
    | (c, p, .ready true) => some ⟨g, p, c⟩
    | (c, p, .ready false) => some (c.abort g p)
    | (c, p, .timedOut) => some (c.abort g p)
    | (c', p, .pending) =>
      if c'.out.length < c.out.length || c'.timers ≠ c.timers then some ⟨g, p, c'⟩ else none

/-- When the connection moves on by itself, if it does. -/
def deadline? (c : Connection) : Option Nat :=
  let earlier (a b : Option Nat) : Option Nat := match a, b with
    | some a, some b => some (min a b)
    | some a, none => some a
    | none, b => b
  match c.phase with
  | .head deadline => earlier (some deadline) (earlier c.timers.read c.timers.write)
  | .collecting _ => earlier c.timers.read c.timers.write
  | .closing => none
  | .ended => none
  | _ => c.timers.write

end Connection

end DeviceGateway
