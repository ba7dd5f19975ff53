import DeviceGateway.Bytes
import DeviceGateway.Text.Blank

/-
  Header fields: what a name and a value may hold, and lists of tokens in their values.
-/

namespace DeviceGateway.Http

/-- May the octet stand in a token? -/
def isTokenOctet (b : UInt8) : Bool :=
  isDigitOctet b || (0x41 ≤ b && b ≤ 0x5A) || (0x5E ≤ b && b ≤ 0x7A) || b = 0x7C || b = 0x7E ||
    b = 0x21 || (0x23 ≤ b && b ≤ 0x27) || b = 0x2A || b = 0x2B || b = 0x2D || b = 0x2E

/-- A name or a method: at least one octet, all of them token octets. -/
def isToken (bs : Bytes) : Bool := !bs.isEmpty && bs.all isTokenOctet

/-- May the octet stand in a value? -/
def isValueOctet (b : UInt8) : Bool := b = 0x09 || (0x20 ≤ b && b ≠ 0x7F)

/-- A visible ASCII character, a space or a tab. -/
def isPlainOctet (b : UInt8) : Bool := b = 0x09 || (0x20 ≤ b && b < 0x7F)

/-- A header field; the name is in small letters. -/
structure Header where
  name : String
  value : Bytes
  deriving DecidableEq, Repr

/-- Header fields in their order. -/
abbrev Headers := List Header

/-- A name in small letters. -/
def lowerName (s : String) : String := String.ofList (Text.lowerAscii s.toList)

/-- The header of a name and a value that are legal. -/
def Header.mk? (name : String) (value : Bytes) : Option Header :=
  if isToken (utf8 name) && value.all isValueOctet then some ⟨lowerName name, value⟩ else none

/-- The text of a value without octets beyond plain ASCII. -/
def plainText? (value : Bytes) : Option String :=
  if value.all isPlainOctet then some (asciiText value) else none

namespace Headers

/-- All values of a name, in order. -/
def values (name : String) (hs : Headers) : List Bytes :=
  (hs.filter (·.name = lowerName name)).map (·.value)

/-- The first value of a name, when it is plain text. -/
def text? (name : String) (hs : Headers) : Option String :=
  ((values name hs).head?).bind plainText?

/-- Is the token in a list that the value writes, members between commas, case ignored? -/
def listHas (token : String) (value : String) : Bool :=
  (Text.splitOn ',' value.toList).any fun part =>
    Text.sameIgnoringCase (Text.trim part) token.toList

/-- Is the token in the list that the fields of a name write together? Values that are not plain
text do not count. -/
def hasToken (name token : String) (hs : Headers) : Bool :=
  ((values name hs).filterMap plainText?).any (listHas token)

end Headers

/-- The key of a request that asks for a channel: GET, with the tokens `websocket` and `upgrade`
in place, version 13, and a key that is not blank. -/
def channelKey? (method : String) (hs : Headers) : Option String :=
  let trimmed (s : String) := String.ofList (Text.trim s.toList)
  if Headers.hasToken "upgrade" "websocket" hs && Headers.hasToken "connection" "upgrade" hs &&
      ((Headers.text? "sec-websocket-version" hs).map trimmed) = some "13" && method = "GET" then
    match (Headers.text? "sec-websocket-key" hs).map trimmed with
    | some key => if key = "" then none else some key
    | none => none
  else none

end DeviceGateway.Http
