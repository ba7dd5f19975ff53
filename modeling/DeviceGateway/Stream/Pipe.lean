import DeviceGateway.Bytes
import DeviceGateway.Stream.Deadline

/-
  A connection in memory, seen from the gateway's end. What the client has sent waits to be read;
  what the gateway has written waits for the client, and a client that does not read leaves room
  for so many octets and no more. Faults make the gateway's end fail after a number of octets.
-/

namespace DeviceGateway.Stream

/-- What becomes of shutting the gateway's end down. -/
inductive Closing
  | clean
  | stalls
  | fails
  deriving DecidableEq, Repr

/-- How many more octets may be read and written before the pipe fails, and what a shutdown does. -/
structure Faults where
  readable : Option Nat := none
  writable : Option Nat := none
  closing : Closing := .clean
  deriving DecidableEq, Repr

/-- A pipe. -/
structure Pipe where
  /-- Sent by the client and not yet read. -/
  incoming : Bytes := []
  /-- The client sends nothing more. -/
  ended : Bool := false
  /-- The client is gone for good. -/
  gone : Bool := false
  /-- Written and not yet taken by the client, latest first. -/
  outgoing : List Bytes := []
  /-- The octets that still fit, when the client does not read. -/
  room : Option Nat := none
  /-- The gateway writes nothing more. -/
  closed : Bool := false
  faults : Faults := {}
  deriving DecidableEq, Repr

/-- What a read gives. -/
inductive Receipt
  | octets (bs : Bytes)
  | ended
  | failed
  deriving DecidableEq, Repr

/-- How far a write got. -/
inductive Progress
  | done
  | blocked
  | failed
  deriving DecidableEq, Repr

namespace Pipe

/-- A limit with a number of octets used up. -/
def lessen (limit : Option Nat) (n : Nat) : Option Nat := limit.map (· - n)

/-- Reads at most `max` octets. -/
def read (p : Pipe) (max : Nat) : Pipe × Poll Receipt :=
  if p.faults.readable = some 0 then (p, .ready .failed)
  else if p.incoming.isEmpty then
    if p.ended || p.gone then (p, .ready .ended) else (p, .pending)
  else
    let n := match p.faults.readable with
      | some k => min k max
      | none => max
    let bs := p.incoming.take n
    ({ p with
        incoming := p.incoming.drop n
        faults := { p.faults with readable := lessen p.faults.readable bs.length } },
      .ready (.octets bs))

/-- Writes as much as goes, and gives back the rest. -/
def write (p : Pipe) (bs : Bytes) : Pipe × Bytes × Progress :=
  if bs.isEmpty then (p, [], .done)
  else if p.gone then (p, bs, .failed)
  else
    let n := min (p.room.getD bs.length) (p.faults.writable.getD bs.length)
    let sent := bs.take n
    let rest := bs.drop n
    let p' := { p with
      outgoing := if sent.isEmpty then p.outgoing else sent :: p.outgoing
      room := lessen p.room sent.length
      faults := { p.faults with writable := lessen p.faults.writable sent.length } }
    (p', rest,
      if rest.isEmpty then .done
      else if p'.faults.writable = some 0 then .failed
      else .blocked)

/-- The pipe when the gateway has let go of its end. -/
def close (p : Pipe) : Pipe := { p with closed := true }

/-- Shuts the gateway's end down. -/
def shutdown (p : Pipe) : Pipe × Poll Bool :=
  match p.faults.closing with
  | .clean => (p.close, .ready true)
  | .fails => (p, .ready false)
  | .stalls => (p, .pending)

/-! ## The client's end -/

/-- The client sends octets. -/
def send (p : Pipe) (bs : Bytes) : Pipe := { p with incoming := p.incoming ++ bs }

/-- The client takes all that was written, when it reads at all. -/
def take (p : Pipe) : Pipe × Bytes :=
  if p.room.isNone then ({ p with outgoing := [] }, p.outgoing.reverse.flatten) else (p, [])

end Pipe

end DeviceGateway.Stream
