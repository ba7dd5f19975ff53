/-
  Octet strings. The wire carries lists of octets; a text travels as its UTF-8.
-/

namespace DeviceGateway

/-- An octet string. -/
abbrev Bytes := List UInt8

/-- The UTF-8 of a text. -/
def utf8 (s : String) : Bytes := s.toList.flatMap String.utf8EncodeChar

/-- The number of octets of a text's UTF-8. -/
def utf8Size (s : String) : Nat := s.toList.foldl (fun n c => n + c.utf8Size) 0

/-- The text of octets below 128, one character an octet. -/
def asciiText (bs : Bytes) : String := String.ofList (bs.map (fun b => Char.ofNat b.toNat))

/-- Is every octet an ASCII character? -/
def isAscii (bs : Bytes) : Bool := bs.all (· < 0x80)

/-- The number as big-endian octets, `width` of them. -/
def bigEndian : (width n : Nat) → Bytes
  | 0, _ => []
  | w + 1, n => bigEndian w (n / 256) ++ [UInt8.ofNat (n % 256)]

/-- The number that big-endian octets write. -/
def ofBigEndian (bs : Bytes) : Nat := bs.foldl (fun n b => n * 256 + b.toNat) 0

/-- Is the octet a decimal digit? -/
def isDigitOctet (b : UInt8) : Bool := 0x30 ≤ b && b ≤ 0x39

/-- The value of an octet that is a decimal digit. -/
def digitValue (b : UInt8) : Nat := b.toNat - 0x30

/-- The value of a hexadecimal digit. -/
def hexValue? (b : UInt8) : Option Nat :=
  if 0x30 ≤ b && b ≤ 0x39 then some (b.toNat - 0x30)
  else if 0x61 ≤ b && b ≤ 0x66 then some (b.toNat - 0x61 + 10)
  else if 0x41 ≤ b && b ≤ 0x46 then some (b.toNat - 0x41 + 10)
  else none

/-- The number that hexadecimal digits write. -/
def ofHexDigits? (bs : Bytes) : Option Nat :=
  bs.foldl (fun n b => n.bind fun n => (hexValue? b).map fun d => n * 16 + d) (some 0)

/-- A hexadecimal digit in lower case. -/
def hexDigit (n : Nat) : Char := (Nat.toDigits 16 (n % 16)).headD '0'

/-- Every octet as two hexadecimal digits in lower case. -/
def toHex (bs : Bytes) : String :=
  String.ofList (bs.flatMap fun b => [hexDigit (b.toNat / 16), hexDigit (b.toNat % 16)])

/-- The octets written by pairs of hexadecimal digits. -/
def ofHex? : List Char → Option Bytes
  | [] => some []
  | a :: b :: r => do
    let hi ← hexValue? (UInt8.ofNat a.toNat)
    let lo ← hexValue? (UInt8.ofNat b.toNat)
    let rest ← ofHex? r
    return UInt8.ofNat (hi * 16 + lo) :: rest
  | [_] => none

end DeviceGateway
