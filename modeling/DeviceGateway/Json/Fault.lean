import DeviceGateway.Bytes

/-
  Why a text is no JSON value, and where reading stopped.
-/

namespace DeviceGateway.Json

/-- Why reading stopped. -/
inductive Cause
  | expectedValue
  | expectedIdent
  | endInValue
  | endInList
  | endInObject
  | endInString
  | expectedColon
  | expectedListEnd
  | expectedObjectEnd
  | keyNotString
  | trailingComma
  | trailingCharacters
  | invalidNumber
  | numberOutOfRange
  | invalidEscape
  | invalidCodePoint
  | endInHexEscape
  | loneSurrogate
  | controlCharacter
  | tooDeep
  /-- The grammar is kept, but the value is not one that is wanted here. -/
  | unfit (reason : String)
  deriving DecidableEq, Repr

/-- The wording of a cause. -/
def Cause.message : Cause → String
  | .expectedValue => "expected value"
  | .expectedIdent => "expected ident"
  | .endInValue => "EOF while parsing a value"
  | .endInList => "EOF while parsing a list"
  | .endInObject => "EOF while parsing an object"
  | .endInString => "EOF while parsing a string"
  | .expectedColon => "expected `:`"
  | .expectedListEnd => "expected `,` or `]`"
  | .expectedObjectEnd => "expected `,` or `\x7d`"
  | .keyNotString => "key must be a string"
  | .trailingComma => "trailing comma"
  | .trailingCharacters => "trailing characters"
  | .invalidNumber => "invalid number"
  | .numberOutOfRange => "number out of range"
  | .invalidEscape => "invalid escape"
  | .invalidCodePoint => "invalid unicode code point"
  | .endInHexEscape => "unexpected end of hex escape"
  | .loneSurrogate => "lone leading surrogate in hex escape"
  | .controlCharacter => "control character (\\u0000-\\u001F) found while parsing a string"
  | .tooDeep => "recursion limit exceeded"
  | .unfit reason => reason

/-- A refused text: the cause, the line from 1, and the octets read on that line. -/
structure Fault where
  cause : Cause
  line : Nat
  column : Nat
  deriving DecidableEq, Repr

/-- The wording of a refusal. -/
def Fault.message (f : Fault) : String :=
  f.cause.message ++ " at line " ++ toString f.line ++ " column " ++ toString f.column

/-- Where reading stopped, while it is under way: the cause and what was not yet read. -/
structure Stop where
  cause : Cause
  rest : Bytes
  deriving DecidableEq, Repr

/-- The line and the column after octets: lines count from 1, columns from 0. -/
def place (consumed : Bytes) : Nat × Nat :=
  consumed.foldl (fun p b => if b = 0x0A then (p.1 + 1, 0) else (p.1, p.2 + 1)) (1, 0)

/-- The refusal of the whole input. -/
def Stop.fault (input : Bytes) (s : Stop) : Fault :=
  let (line, column) := place (input.take (input.length - s.rest.length))
  { cause := s.cause, line, column }

/-- What a reader gives: a result and what follows it. -/
abbrev Read (α : Type) := Except Stop (α × Bytes)

/-- Stops behind the octet read last. -/
def stopAt {α : Type} (c : Cause) (rest : Bytes) : Except Stop α := .error ⟨c, rest⟩

/-- Stops on the next octet, which counts as read if there is one. -/
def stopOn {α : Type} (c : Cause) (rest : Bytes) : Except Stop α := .error ⟨c, rest.drop 1⟩

end DeviceGateway.Json
