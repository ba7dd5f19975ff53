/-
  Deadlines on the operations of a stream. A deadline measures one stall: its timer starts when
  an operation is first found pending and is discarded as soon as one that shares it completes or
  runs out of time. Reads have a timer of their own; writes, flushes and the shutdown share one.
  Times are milliseconds of a clock that never goes back.
-/

namespace DeviceGateway.Stream

/-- How long each kind of operation may stall. -/
structure Limits where
  read : Nat
  write : Nat
  shutdown : Nat
  deriving DecidableEq, Repr

/-- The kinds of operations. -/
inductive Operation
  | read
  | write
  | flush
  | shutdown
  deriving DecidableEq, Repr

/-- The limit of an operation. -/
def Limits.of (l : Limits) : Operation → Nat
  | .read => l.read
  | .write => l.write
  | .flush => l.write
  | .shutdown => l.shutdown

/-- What asking an operation gives: a result, or nothing yet. -/
inductive Poll (α : Type)
  | ready (a : α)
  | pending
  deriving DecidableEq, Repr

/-- What asking an operation under a deadline gives. -/
inductive Guarded (α : Type)
  | ready (a : α)
  | pending
  | timedOut
  deriving DecidableEq, Repr

/-- When the timers run out, as far as they are started. -/
structure Timers where
  read : Option Nat := none
  write : Option Nat := none
  deriving DecidableEq, Repr

namespace Timers

/-- The timer of an operation. -/
def get (t : Timers) : Operation → Option Nat
  | .read => t.read
  | _ => t.write

/-- The timers with that of an operation set. -/
def set (t : Timers) (op : Operation) (deadline : Option Nat) : Timers :=
  match op with
  | .read => { t with read := deadline }
  | _ => { t with write := deadline }

end Timers

/-- Passes an answer on, and turns a stall that has lasted for its limit into a time-out. -/
def guard {α : Type} (limits : Limits) (timers : Timers) (op : Operation) (now : Nat)
    (answer : Poll α) : Timers × Guarded α :=
  match answer with
  | .ready a => (timers.set op none, .ready a)
  | .pending =>
    let deadline := (timers.get op).getD (now + limits.of op)
    if deadline ≤ now then (timers.set op none, .timedOut)
    else (timers.set op (some deadline), .pending)

end DeviceGateway.Stream
