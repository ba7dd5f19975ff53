import DeviceGateway.Json.Basic
import DeviceGateway.Bytes
import DeviceGateway.Decimal.Notation

/-
  The one text of a JSON value on the wire: no blanks, keys in the object's order, and only
  quotes, backslashes and control characters escaped.
-/

namespace DeviceGateway.Json

/-- A character inside a string. -/
def escape (c : Char) : List Char :=
  if c = '"' then ['\\', '"']
  else if c = '\\' then ['\\', '\\']
  else if c = '\n' then ['\\', 'n']
  else if c = '\r' then ['\\', 'r']
  else if c = '\t' then ['\\', 't']
  else if c = '\x08' then ['\\', 'b']
  else if c = '\x0c' then ['\\', 'f']
  else if c.toNat < 0x20 then
    ['\\', 'u', '0', '0', hexDigit (c.toNat / 16), hexDigit (c.toNat % 16)]
  else [c]

/-- A string with its quotes. -/
def quoted (s : String) : List Char := '"' :: s.toList.flatMap escape ++ ['"']

/-- The text of a whole number. -/
def intChars (n : Int) : List Char :=
  if n < 0 then '-' :: Nat.toDigits 10 n.natAbs else Nat.toDigits 10 n.natAbs

mutual

/-- Writes a value after what is written already, latest character first. -/
def write (done : List Char) : Json → List Char
  | .null => 'l' :: 'l' :: 'u' :: 'n' :: done
  | .bool true => 'e' :: 'u' :: 'r' :: 't' :: done
  | .bool false => 'e' :: 's' :: 'l' :: 'a' :: 'f' :: done
  | .int n => (intChars n).reverseAux done
  | .float x => x.wireText.toList.reverseAux done
  | .str s => (quoted s).reverseAux done
  | .arr items => ']' :: writeItems ('[' :: done) items
  | .obj fields => '\x7d' :: writeFields ('\x7b' :: done) fields

/-- Writes the items of an array. -/
def writeItems (done : List Char) : List Json → List Char
  | [] => done
  | x :: xs =>
    match xs with
    | [] => write done x
    | y :: ys => writeItems (',' :: write done x) (y :: ys)

/-- Writes the fields of an object. -/
def writeFields (done : List Char) : List (String × Json) → List Char
  | [] => done
  | (k, v) :: fs =>
    match fs with
    | [] => write (':' :: (quoted k).reverseAux done) v
    | f :: gs => writeFields (',' :: write (':' :: (quoted k).reverseAux done) v) (f :: gs)

end

/-- The text of a value. -/
def text (j : Json) : String := String.ofList (write [] j).reverse

end DeviceGateway.Json
