import DeviceGateway.Bytes
import DeviceGateway.Stream.Deadline

/-
  A stream under deadlines over a transport whose answers are known in advance. Each answer comes
  a while after it was first asked for, however often the asking was given up in between.
-/

namespace DeviceGateway.Stream

/-- The kind of a failure, by its name. -/
abbrev Kind := String

/-- An answer to a read. -/
structure ReadAnswer where
  stall : Nat
  outcome : Except Kind Bytes

/-- An answer to a write: how many octets are taken at most. -/
structure WriteAnswer where
  stall : Nat
  outcome : Except Kind Nat

/-- The answers still to come, since when the next of each kind has been asked for, octets of a
read that did not fit, and the octets written, latest piece first. -/
structure Transport where
  reads : List ReadAnswer := []
  writes : List WriteAnswer := []
  flushes : List Nat := []
  shutdowns : List Nat := []
  readSince : Option Nat := none
  writeSince : Option Nat := none
  flushSince : Option Nat := none
  shutdownSince : Option Nat := none
  leftover : Bytes := []
  written : List Bytes := []

namespace Transport

/-- Asks for octets, at most so many; also says when the answer is due. -/
def pollRead (t : Transport) (now room : Nat) : Transport × Poll (Except Kind Bytes) × Nat :=
  if !t.leftover.isEmpty then
    ({ t with leftover := t.leftover.drop room }, .ready (.ok (t.leftover.take room)), now)
  else
    match t.reads with
    | [] => (t, .ready (.ok []), now)
    | a :: rest =>
      let since := t.readSince.getD now
      if since + a.stall ≤ now then
        let t := { t with reads := rest, readSince := none }
        match a.outcome with
        | .ok bs => ({ t with leftover := bs.drop room }, .ready (.ok (bs.take room)), now)
        | .error k => (t, .ready (.error k), now)
      else ({ t with readSince := some since }, .pending, since + a.stall)

/-- Offers octets; the answer is how many were taken. -/
def pollWrite (t : Transport) (now : Nat) (data : Bytes) :
    Transport × Poll (Except Kind Nat) × Nat :=
  match t.writes with
  | [] => ({ t with written := data :: t.written }, .ready (.ok data.length), now)
  | a :: rest =>
    let since := t.writeSince.getD now
    if since + a.stall ≤ now then
      let t := { t with writes := rest, writeSince := none }
      match a.outcome with
      | .ok room =>
        let taken := data.take room
        ({ t with written := taken :: t.written }, .ready (.ok taken.length), now)
      | .error k => (t, .ready (.error k), now)
    else ({ t with writeSince := some since }, .pending, since + a.stall)

/-- Asks for a flush. -/
def pollFlush (t : Transport) (now : Nat) : Transport × Poll (Except Kind Nat) × Nat :=
  match t.flushes with
  | [] => (t, .ready (.ok 0), now)
  | stall :: rest =>
    let since := t.flushSince.getD now
    if since + stall ≤ now then
      ({ t with flushes := rest, flushSince := none }, .ready (.ok 0), now)
    else ({ t with flushSince := some since }, .pending, since + stall)

/-- Asks for the shutdown. -/
def pollShutdown (t : Transport) (now : Nat) : Transport × Poll (Except Kind Nat) × Nat :=
  match t.shutdowns with
  | [] => (t, .ready (.ok 0), now)
  | stall :: rest =>
    let since := t.shutdownSince.getD now
    if since + stall ≤ now then
      ({ t with shutdowns := rest, shutdownSince := none }, .ready (.ok 0), now)
    else ({ t with shutdownSince := some since }, .pending, since + stall)

/-- What a reader without deadlines still gets, up to the end or to a failure. -/
def remaining (t : Transport) : Option Bytes :=
  go t.leftover t.reads
where
  /-- The octets so far and those of further answers. -/
  go (done : Bytes) : List ReadAnswer → Option Bytes
    | [] => some done
    | a :: rest =>
      match a.outcome with
      | .ok [] => some done
      | .ok bs => go (done ++ bs) rest
      | .error _ => none

end Transport

/-- A stream: its transport, limits and timers, and the time. -/
structure State where
  transport : Transport
  limits : Limits
  timers : Timers := {}
  now : Nat := 0

/-- How an operation ends. -/
inductive Ending (α : Type)
  | done (a : α)
  | failed (kind : Kind)
  | gaveUp

/-- Asks for an operation until it ends; each time nothing is there yet, the clock moves on to
the answer, the deadline or the time to give up, whatever comes first. -/
def State.await {α : Type} (op : Operation)
    (ask : Transport → Nat → Transport × Poll (Except Kind α) × Nat) (giveUp : Option Nat) :
    (fuel : Nat) → State → State × Ending α
  | 0, s => (s, .gaveUp)
  | n + 1, s =>
    let (transport, answer, due) := ask s.transport s.now
    let (timers, result) := guard s.limits s.timers op s.now answer
    let s := { s with transport, timers }
    match result with
    | .ready (.ok a) => (s, .done a)
    | .ready (.error k) => (s, .failed k)
    | .timedOut => (s, .failed "TimedOut")
    | .pending =>
      if giveUp.any (· ≤ s.now) then (s, .gaveUp)
      else
        let next := min due ((timers.get op).getD due)
        let next := match giveUp with
          | some g => min next g
          | none => next
        State.await op ask giveUp n { s with now := next }

/-- How often an operation has to be asked for at most. -/
def maxAsks : Nat := 4

/-- Reads once. -/
def State.read (room : Nat) (giveUp : Option Nat) (s : State) : State × Ending Bytes :=
  s.await .read (fun t now => t.pollRead now room) giveUp maxAsks

/-- Writes once. -/
def State.write (data : Bytes) (giveUp : Option Nat) (s : State) : State × Ending Nat :=
  s.await .write (fun t now => t.pollWrite now data) giveUp maxAsks

/-- Flushes. -/
def State.flush (giveUp : Option Nat) (s : State) : State × Ending Nat :=
  s.await .flush Transport.pollFlush giveUp maxAsks

/-- Shuts the stream down. -/
def State.shutdown (giveUp : Option Nat) (s : State) : State × Ending Nat :=
  s.await .shutdown Transport.pollShutdown giveUp maxAsks

/-- Reads until so many octets are there. -/
def State.readExact (giveUp : Option Nat) : (fuel : Nat) → (missing : Nat) → (done : Bytes) →
    State → State × Ending Bytes
  | _, 0, done, s => (s, .done done)
  | 0, _, done, s => (s, .done done)
  | n + 1, missing, done, s =>
    match s.read missing giveUp with
    | (s, .done []) => (s, .failed "UnexpectedEof")
    | (s, .done bs) => s.readExact giveUp n (missing - bs.length) (done ++ bs)
    | (s, .failed k) => (s, .failed k)
    | (s, .gaveUp) => (s, .gaveUp)

/-- Writes until all octets are taken. -/
def State.writeAll (giveUp : Option Nat) : (fuel : Nat) → Bytes → State → State × Ending Unit
  | _, [], s => (s, .done ())
  | 0, _, s => (s, .done ())
  | n + 1, data, s =>
    match s.write data giveUp with
    | (s, .done 0) => (s, .failed "WriteZero")
    | (s, .done k) => s.writeAll giveUp n (data.drop k)
    | (s, .failed k) => (s, .failed k)
    | (s, .gaveUp) => (s, .gaveUp)

end DeviceGateway.Stream
