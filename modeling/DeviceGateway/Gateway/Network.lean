import DeviceGateway.Channel.Task
import DeviceGateway.Gateway.Connection

/-
  A gateway with the connections of its clients, under one clock. Every connection takes its steps
  in turn until none has anything to do; only then does time pass.
-/

namespace DeviceGateway

open DeviceGateway.Stream (Pipe Faults)

/-- What serves a client: an HTTP connection, or the task of a channel, which may not have been
started yet. -/
inductive Server
  | http (c : Connection)
  | channel (t : Channel.Task) (running : Bool)
  deriving Repr

/-- A client's connection; `kept` says whether somebody but its task holds the session. -/
structure Link where
  pipe : Pipe := {}
  server : Server
  kept : Bool := false
  deriving Repr

namespace Link

/-- Has the task come to its end? -/
def isEnded (l : Link) : Bool :=
  match l.server with
  | .http c => (c.phase matches .ended)
  | .channel t _ => t.stage = .ended

/-- The session of a channel. -/
def session? (l : Link) : Option Nat :=
  match l.server with
  | .http _ => none
  | .channel t _ => some t.session

/-- Opens a channel over a pipe: `leftover` has been read already. The session is registered. -/
def openChannel (g : Gateway) (pipe : Pipe) (leftover : Bytes) (owner : Principal) :
    Gateway × Link :=
  let (home, task) := Channel.Task.accept g.home leftover owner
  ({ g with home }, { pipe, server := .channel task true })

/-- One turn of a channel. Once its task has ended, only somebody else can hold the session. -/
def stepChannel (g : Gateway) (now : Nat) (l : Link) (t : Channel.Task) : Option (Gateway × Link) :=
  let moment : Channel.Moment :=
    { deadlines := g.deadlines, commands := g.commands, stop := g.signal.fired, now }
  (t.turn Channel.Task.turnSteps moment g.home l.pipe).map fun taken =>
    let g := { g with home := taken.home }
    let g := if taken.task.stage = .ended then
        g.onSessions fun ss => ss.modify t.session fun s => { s with held := l.kept }
      else g
    (g, { l with pipe := taken.pipe, server := .channel taken.task true })

/-- One step, or none while there is nothing to do. -/
def step (g : Gateway) (now : Nat) (l : Link) : Option (Gateway × Link) :=
  match l.server with
  | .http c =>
    match c.phase with
    | .handed owner => some (openChannel g l.pipe c.buffer owner)
    | _ => (c.step g now l.pipe).map fun s =>
        (s.gateway, { l with pipe := s.pipe, server := .http s.connection })
  | .channel t running => if running then l.stepChannel g now t else none

/-- When the connection moves on by itself, if it does. -/
def deadline? (l : Link) : Option Nat :=
  match l.server with
  | .http c => c.deadline?
  | .channel t running => if running then t.deadline? else none

/-- How much there is to be read, written and worked on. -/
def load (l : Link) : Nat :=
  l.pipe.incoming.length +
    match l.server with
    | .http c => c.buffer.length + c.out.length
    | .channel t _ => t.wire.receiver.buffer.length + t.wire.out.length

end Link

/-- A gateway, its connections by name, and the time in milliseconds. -/
structure Network where
  gateway : Gateway
  links : List (String × Link) := []
  now : Nat := 0

namespace Network

/-- The connection of a name. -/
def get? (n : Network) (name : String) : Option Link := n.links.lookup name

/-- The network with one connection changed. -/
def modify (n : Network) (name : String) (f : Link → Link) : Network :=
  { n with links := n.links.map fun (k, l) => (k, if k = name then f l else l) }

/-- The network with one more connection. -/
def add (n : Network) (name : String) (l : Link) : Network :=
  { n with links := n.links ++ [(name, l)] }

/-- Lets every connection take one step; `true` when any did. -/
def round (n : Network) : Network × Bool :=
  let (gateway, links, moved) := n.links.foldl
    (fun (acc : Gateway × List (String × Link) × Bool) (name, l) =>
      match l.step acc.1 n.now with
      | some (g, l) => (g, (name, l) :: acc.2.1, true)
      | none => (acc.1, (name, l) :: acc.2.1, acc.2.2))
    (n.gateway, [], false)
  ({ n with gateway, links := links.reverse }, moved)

/-- Rounds, until one in which nothing moves. -/
def rounds (fuel : Nat) (n : Network) : Network :=
  match fuel with
  | 0 => n
  | k + 1 =>
    match n.round with
    | (n, true) => rounds k n
    | (n, false) => n

/-- How many rounds suffice: every octet and every text that waits is worked on a few times by
each connection at most. -/
def patience (n : Network) : Nat :=
  let texts := n.gateway.sessions.all.foldl (fun k s => k + s.queue.length) 0
  let octets := n.links.foldl (fun k l => k + l.2.load) 0
  16 * (octets + texts + 64) * (n.links.length + 1)

/-- Lets everything happen that can happen without time passing. -/
def settle (n : Network) : Network := n.rounds n.patience

/-- The next time at which a connection moves on by itself. -/
def nextDeadline? (n : Network) : Option Nat :=
  ((n.links.filterMap (·.2.deadline?)).filter (n.now < ·)).min?

/-- Lets time pass up to a moment, with a stop at every deadline on the way. -/
def passUntil (fuel : Nat) (moment : Nat) (n : Network) : Network :=
  match fuel, n.nextDeadline? with
  | k + 1, some d =>
    if d ≤ moment then passUntil k moment { n with now := d }.settle
    else { n with now := moment }.settle
  | _, _ => { n with now := moment }.settle

/-- Lets so many milliseconds pass; a connection has a few deadlines before it ends. -/
def pass (n : Network) (ms : Nat) : Network :=
  n.settle.passUntil (8 * (n.links.length + 1)) (n.now + ms)

/-- The number of registered channels. -/
def channels (n : Network) : Nat := n.gateway.sessions.live

/-! ## What clients and others do -/

/-- A client connects and is served by HTTP. -/
def connect (n : Network) (name : String) (faults : Faults) : Network :=
  n.add name { pipe := { faults }, server := .http (.start n.gateway n.now) }

/-- How a channel is opened directly. -/
structure Opening where
  owner : Principal
  leftover : Bytes := []
  running : Bool := true
  kept : Bool := false
  room : Option Nat := none
  faults : Faults := {}

/-- Opens a channel directly. -/
def openChannel (n : Network) (name : String) (o : Opening) : Network :=
  let (gateway, l) := Link.openChannel n.gateway { room := o.room, faults := o.faults } o.leftover
    o.owner
  let server := match l.server with
    | .channel t _ => .channel t o.running
    | s => s
  { n with gateway }.add name { l with server, kept := o.kept }

/-- The task of a channel is started. -/
def run (n : Network) (name : String) : Network :=
  n.modify name fun l =>
    match l.server with
    | .channel t _ => { l with server := .channel t true }
    | _ => l

/-- Whoever kept the session of a channel lets go of it. -/
def release (n : Network) (name : String) : Network :=
  match n.get? name with
  | none => n
  | some l =>
    let n := n.modify name fun l => { l with kept := false }
    match l.isEnded, l.session? with
    | true, some id =>
      { n with
        gateway := n.gateway.onSessions fun ss => ss.modify id fun s => { s with held := false } }
    | _, _ => n

/-- The network with the pipe of a connection changed. -/
def onPipe (n : Network) (name : String) (f : Pipe → Pipe) : Network :=
  n.modify name fun l => { l with pipe := f l.pipe }

/-- The shutdown signal fires. -/
def trigger (n : Network) : Network :=
  { n with gateway := { n.gateway with signal := n.gateway.signal.trigger } }

end Network

end DeviceGateway
