import DeviceGateway.Http.Headers
import DeviceGateway.Http.Target
import DeviceGateway.Text.Utf8

/-
  Request heads: the request line and the header fields, up to an empty line. Reading a head gives
  the head and the rest, or says that it is not all there, or that it is malformed.
-/

namespace DeviceGateway.Http

/-- The versions that are spoken. -/
inductive Version
  | http10
  | http11
  deriving DecidableEq, Repr, Inhabited

/-- The name of a version. -/
def Version.name : Version → String
  | http10 => "HTTP/1.0"
  | http11 => "HTTP/1.1"

/-- A request without its body. -/
structure Head where
  method : String
  path : String
  query : Option String := none
  version : Version := .http11
  headers : Headers := []
  deriving DecidableEq, Repr

/-- How many header fields a head may have. -/
def maxHeaders : Nat := 100

/-- Why a head is not read. -/
inductive Unread
  /-- There may be more to come. -/
  | incomplete
  | malformed
  /-- There is too much of it. -/
  | tooLarge
  deriving DecidableEq, Repr

namespace Head

/-- An end of line: a line feed, with or without a carriage return in front. -/
def endOfLine : Bytes → Except Unread (Unit × Bytes)
  | [] => .error .incomplete
  | 0x0A :: r => .ok ((), r)
  | [0x0D] => .error .incomplete
  | 0x0D :: 0x0A :: r => .ok ((), r)
  | _ => .error .malformed

/-- Passes over empty lines in front of a head. -/
def skipEmptyLines (fuel : Nat) (bs : Bytes) : Except Unread (Unit × Bytes) :=
  match fuel, bs with
  | _, [] => .error .incomplete
  | 0, _ => .error .malformed
  | n + 1, b :: r =>
    if b == 0x0D || b == 0x0A then do
      let (_, r) ← endOfLine (b :: r)
      skipEmptyLines n r
    else .ok ((), b :: r)

/-- A word of octets of a kind, not empty, and the octet behind it. -/
def word (kind : UInt8 → Bool) (stop : UInt8) (bs : Bytes) : Except Unread (Bytes × Bytes) :=
  let w := bs.takeWhile kind
  match bs.drop w.length with
  | [] => .error .incomplete
  | b :: r => if b == stop && !w.isEmpty then .ok (w, r) else .error .malformed

/-- May the octet stand in a target? -/
def isTargetOctet (b : UInt8) : Bool := 0x20 < b && b != 0x7F

/-- The version. What is there of it has to be right, even if it is not all there. -/
def readVersion (bs : Bytes) : Except Unread (Version × Bytes) :=
  let octets := bs.take 8
  if octets.length < 8 then
    if octets.isPrefixOf (utf8 "HTTP/1.") then .error .incomplete else .error .malformed
  else if octets = utf8 "HTTP/1.0" then .ok (.http10, bs.drop 8)
  else if octets = utf8 "HTTP/1.1" then .ok (.http11, bs.drop 8)
  else .error .malformed

/-- Is the octet a space or a tab? -/
def isGap (b : UInt8) : Bool := b == 0x20 || b == 0x09

/-- One header field. Blanks around the value do not count, and a value has one line. -/
def readHeader (bs : Bytes) : Except Unread (Header × Bytes) := do
  let (name, r) ← word isTokenOctet 0x3A bs
  let r := r.dropWhile isGap
  let value := r.takeWhile isValueOctet
  let (_, r) ← endOfLine (r.drop value.length)
  return (⟨lowerName (asciiText name), (value.reverse.dropWhile isGap).reverse⟩, r)

/-- All header fields and the empty line behind them. -/
def readHeaders (fuel : Nat) (bs : Bytes) : Except Unread (Headers × Bytes) :=
  match bs with
  | [] => .error .incomplete
  | b :: r =>
    if b == 0x0D || b == 0x0A then (endOfLine (b :: r)).map fun (_, r) => ([], r)
    else do
      let (h, r) ← readHeader (b :: r)
      match fuel with
      | 0 => .error .tooLarge
      | n + 1 =>
        let (hs, r) ← readHeaders n r
        return (h :: hs, r)

/-- The head at the front of octets. -/
def read (bs : Bytes) : Except Unread (Head × Bytes) := do
  let (_, r) ← skipEmptyLines bs.length bs
  let (method, r) ← word isTokenOctet 0x20 r
  let (target, r) ← word isTargetOctet 0x20 r
  let (version, r) ← if (Utf8.decode? target).isSome then readVersion r else .error .malformed
  let (_, r) ← endOfLine r
  let (headers, r) ← readHeaders maxHeaders r
  match Target.parse? target with
  | none => .error .malformed
  | some t =>
    return ({
      method := asciiText method
      path := (Utf8.decode? t.path).getD ""
      query := t.query.map fun q => (Utf8.decode? q).getD ""
      version, headers }, r)

/-- Is the end of a head among the octets, so that it is worth reading again? -/
def isClosed : Bytes → Bool
  | 0x0A :: 0x0A :: _ => true
  | 0x0A :: 0x0D :: 0x0A :: _ => true
  | _ :: r => isClosed r
  | [] => false

end Head

end DeviceGateway.Http
