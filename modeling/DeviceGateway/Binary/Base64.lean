import DeviceGateway.Bytes

/-
  Base64 with the standard alphabet and padding. Reading accepts only what writing produces:
  whole groups of four, padding only where it is due, and no stray bits under the padding.
-/

namespace DeviceGateway.Base64

/-- The character of a six-bit value. -/
def letter (n : Nat) : UInt8 :=
  if n < 26 then UInt8.ofNat (0x41 + n)
  else if n < 52 then UInt8.ofNat (0x61 + (n - 26))
  else if n < 62 then UInt8.ofNat (0x30 + (n - 52))
  else if n = 62 then 0x2B
  else 0x2F

/-- The six-bit value of a character. -/
def value? (b : UInt8) : Option Nat :=
  if 0x41 ≤ b && b ≤ 0x5A then some (b.toNat - 0x41)
  else if 0x61 ≤ b && b ≤ 0x7A then some (b.toNat - 0x61 + 26)
  else if 0x30 ≤ b && b ≤ 0x39 then some (b.toNat - 0x30 + 52)
  else if b == 0x2B then some 62
  else if b == 0x2F then some 63
  else none

/-- The padding character. -/
def pad : UInt8 := 0x3D

/-- Three octets at a time as four characters. -/
def encode : Bytes → Bytes
  | a :: b :: c :: r =>
    let n := a.toNat * 65536 + b.toNat * 256 + c.toNat
    letter (n / 262144) :: letter (n / 4096 % 64) :: letter (n / 64 % 64) :: letter (n % 64)
      :: encode r
  | [a, b] =>
    let n := a.toNat * 256 + b.toNat
    [letter (n / 1024), letter (n / 16 % 64), letter (n % 16 * 4), pad]
  | [a] => [letter (a.toNat / 4), letter (a.toNat % 4 * 16), pad, pad]
  | [] => []

/-- The octets of a last group with its padding: the bits under the padding must be zero. -/
def decodeLast (a b c d : UInt8) : Option Bytes := do
  let x ← value? a
  let y ← value? b
  if c = pad then
    if d = pad && y % 16 = 0 then some [UInt8.ofNat (x * 4 + y / 16)] else none
  else
    let z ← value? c
    if d = pad then
      if z % 4 = 0 then
        some [UInt8.ofNat (x * 4 + y / 16), UInt8.ofNat (y % 16 * 16 + z / 4)]
      else none
    else
      let w ← value? d
      some [UInt8.ofNat (x * 4 + y / 16), UInt8.ofNat (y % 16 * 16 + z / 4),
        UInt8.ofNat (z % 4 * 64 + w)]

/-- The octets that a text of whole groups writes. -/
def decode? : Bytes → Option Bytes
  | [] => some []
  | [a, b, c, d] => decodeLast a b c d
  | a :: b :: c :: d :: r => do
    let x ← value? a
    let y ← value? b
    let z ← value? c
    let w ← value? d
    let rest ← decode? r
    return UInt8.ofNat (x * 4 + y / 16) :: UInt8.ofNat (y % 16 * 16 + z / 4)
      :: UInt8.ofNat (z % 4 * 64 + w) :: rest
  | _ => none

/-- The octets that six-bit values make; bits that fill no octet are dropped. -/
def unpack : List Nat → Bytes
  | x :: y :: z :: w :: r =>
    UInt8.ofNat (x * 4 + y / 16) :: UInt8.ofNat (y % 16 * 16 + z / 4)
      :: UInt8.ofNat (z % 4 * 64 + w) :: unpack r
  | [x, y, z] => [UInt8.ofNat (x * 4 + y / 16), UInt8.ofNat (y % 16 * 16 + z / 4)]
  | [x, y] => [UInt8.ofNat (x * 4 + y / 16)]
  | _ => []

end DeviceGateway.Base64
