import DeviceGateway.Text.Blank

/-
  Log messages and how grave they are.
-/

namespace DeviceGateway.Log

/-- How grave a message is, the gravest first; `off` is below them all. -/
inductive Severity
  | off
  | error
  | warn
  | info
  | debug
  | trace
  deriving DecidableEq, Repr

namespace Severity

/-- All severities in order. -/
def all : List Severity := [.off, .error, .warn, .info, .debug, .trace]

/-- The place in the order. -/
def rank : Severity → Nat
  | .off => 0
  | .error => 1
  | .warn => 2
  | .info => 3
  | .debug => 4
  | .trace => 5

/-- The name of a severity. -/
def name : Severity → String
  | .off => "OFF"
  | .error => "ERROR"
  | .warn => "WARN"
  | .info => "INFO"
  | .debug => "DEBUG"
  | .trace => "TRACE"

/-- The number that digits write, with a plus sign in front or without. -/
def number? (text : List Char) : Option Nat :=
  let digits := if text.head? = some '+' then text.drop 1 else text
  if digits.isEmpty || !digits.all Char.isDigit then none
  else some (digits.foldl (fun n c => n * 10 + (c.toNat - '0'.toNat)) 0)

/-- The severity of a name in letters of either case, or of its place in the order. -/
def ofText? (text : List Char) : Option Severity :=
  all.find? fun s => Text.sameIgnoringCase text s.name.toList || number? text = some s.rank

end Severity

/-- A message. -/
structure Message where
  severity : Severity
  text : String
  deriving DecidableEq, Repr

/-- The line of a message. -/
def Message.line (m : Message) : String := m.severity.name ++ " " ++ m.text

/-- The names of the fields that every message has. -/
def Message.fields : List String := ["message"]

end DeviceGateway.Log
