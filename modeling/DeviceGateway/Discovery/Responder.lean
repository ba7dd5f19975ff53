import DeviceGateway.Discovery.Beacon
import DeviceGateway.Net.Address

/-
  The responder's loop, over virtual milliseconds. It reads every datagram into one buffer, and
  sends its reply before it reads on; after a failed receive it rests. While it receives or rests it
  also waits for the shutdown signal; while it sends it does not.
-/

namespace DeviceGateway.Discovery

/-- The rest after a failed receive, in milliseconds. -/
def failureRest : Nat := 100

/-- What the loop waits for. -/
inductive Wait
  | datagram
  | sending
  | rest (wake : Nat)
  | nothing
  deriving DecidableEq, Repr

/-- How a wait ends. -/
inductive Ending
  | received (data : Bytes) (sender : Net.Address)
  | failed (kind : String)
  | sent (error : Option String)
  | rested
  | stopped
  deriving DecidableEq, Repr

/-- What the loop does then. -/
inductive Act
  | receive
  | send (receiver : Net.Address) (text : String)
  | rest
  | stop
  deriving DecidableEq, Repr

/-- The loop between two of its acts. -/
structure Responder where
  name : String
  endpoint : String
  /-- Where every datagram is read to; what is not overwritten stays. -/
  buffer : Bytes := List.replicate maxQueryBytes 0
  wait : Wait := .datagram
  /-- When the wait began. -/
  time : Nat := 0
  deriving DecidableEq, Repr

namespace Responder

/-- A datagram is read into the buffer as far as it fits, and answered. -/
def answer (r : Responder) (data : Bytes) (sender : Net.Address) : Responder × Act :=
  let len := min data.length r.buffer.length
  let buffer := data.take len ++ r.buffer.drop len
  let reply := beacon (buffer.take len) r.name r.endpoint
  ({ r with buffer, wait := .sending }, .send sender reply.text)

/-- Does the signal end the wait? -/
def hearsStop (r : Responder) : Bool :=
  match r.wait with
  | .datagram => true
  | .rest _ => true
  | _ => false

/-- What the loop does when a wait ends; none if it cannot end so. `stop` is when the signal fires.
A reply that could not be sent is not sent again. -/
def endWait (stop : Option Nat) (now : Nat) (r : Responder) : Ending → Option (Responder × Act)
  | .received data sender => if r.wait = .datagram then some (r.answer data sender) else none
  | .failed _ =>
    if r.wait = .datagram then some ({ r with wait := .rest (now + failureRest) }, .rest) else none
  | .sent _ => if r.wait = .sending then some ({ r with wait := .datagram }, .receive) else none
  | .rested =>
    match r.wait with
    | .rest wake => if wake ≤ now then some ({ r with wait := .datagram }, .receive) else none
    | _ => none
  | .stopped =>
    if r.hearsStop && stop.any (· ≤ now) then some ({ r with wait := .nothing }, .stop) else none

/-- One turn of the loop, no earlier than the last. -/
def step (stop : Option Nat) (now : Nat) (ending : Ending) (r : Responder) :
    Option (Responder × Act) :=
  if now < r.time then none
  else (r.endWait stop now ending).map fun (r, act) => ({ r with time := now }, act)

end Responder

/-! ## Runs -/

/-- One turn: when a wait ended, how, and what was done then. -/
structure Turn where
  time : Nat
  ending : Ending
  act : Act
  deriving DecidableEq, Repr

/-- What is seen of the loop, and when. -/
inductive Event
  | failed (kind : String) (time : Nat)
  | replied (receiver : Net.Address) (text : String) (time : Nat)
  deriving DecidableEq, Repr

/-- What is seen of a turn. -/
def Turn.event? (t : Turn) : Option Event :=
  match t.ending, t.act with
  | .failed kind, _ => some (.failed kind t.time)
  | _, .send receiver text => some (.replied receiver text t.time)
  | _, _ => none

/-- A run of the loop: its turns, whether it ended by itself, and the receives left over. -/
structure Run where
  turns : List Turn
  stopped : Bool
  unread : Nat
  deriving DecidableEq, Repr

/-- What is seen of a run. -/
def Run.events (r : Run) : List Event := r.turns.filterMap Turn.event?

/-- The run with a turn before it. -/
def Run.after (t : Turn) (r : Run) : Run := { r with turns := t :: r.turns }

/-- What one receive gives, `wait` milliseconds after it began, and how the sending of the reply
ends, `sending` milliseconds after that. -/
inductive Receipt
  | datagram (wait : Nat) (data : Bytes) (sender : Net.Address) (sending : Nat := 0)
      (error : Option String := none)
  | failure (wait : Nat) (kind : String)
  deriving DecidableEq, Repr

/-- The endings that receipts bring about from a time on, and when, if no signal fires. -/
def endings (time : Nat) : List Receipt → List (Nat × Ending)
  | [] => []
  | .datagram wait data sender sending error :: rest =>
    let sent := time + wait + sending
    (time + wait, .received data sender) :: (sent, .sent error) :: endings sent rest
  | .failure wait kind :: rest =>
    let rested := time + wait + failureRest
    (time + wait, .failed kind) :: (rested, .rested) :: endings rested rest

/-- Is this the end of a receive? -/
def Ending.isReceipt : Ending → Bool
  | .received _ _ => true
  | .failed _ => true
  | _ => false

/-- When the signal ends the wait, if it comes by then. -/
def Responder.signalBy (stop : Option Nat) (latest : Nat) (r : Responder) : Option Nat :=
  stop.filter fun s => r.hearsStop && s ≤ latest

/-- The run on given endings: the signal comes before whatever is not earlier, and the run is cut
off at `horizon`. Behind the last ending nothing more comes but the signal. -/
def play (stop : Option Nat) (horizon : Nat) (r : Responder) : List (Nat × Ending) → Run
  | [] =>
    match r.signalBy stop horizon with
    | some s => halt r s 0
    | none => cut 0
  | (time, ending) :: more =>
    let unread := (more.filter (·.2.isReceipt)).length
    match r.signalBy stop (min time horizon) with
    | some s => halt r s unread
    | none =>
      if horizon < time then cut unread
      else
        match r.step stop time ending with
        | some (r', act) => (play stop horizon r' more).after { time, ending, act }
        | none => cut unread
where
  /-- The end of a run by the signal. -/
  halt (r : Responder) (s unread : Nat) : Run :=
    { turns := [{ time := max s r.time, ending := .stopped, act := .stop }]
      stopped := true
      unread }
  /-- A run that is cut off. -/
  cut (unread : Nat) : Run := { turns := [], stopped := false, unread }

/-- The loop's run from the start. -/
def run (name endpoint : String) (receipts : List Receipt) (stop : Option Nat) (horizon : Nat) :
    Run :=
  play stop horizon { name, endpoint } (endings 0 receipts)

end DeviceGateway.Discovery
