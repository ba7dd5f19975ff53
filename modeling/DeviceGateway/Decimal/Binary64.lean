/-
  Binary64 numbers as exact rationals. Products and quotients are computed in whole numbers and
  rounded once, to the nearest number, ties to the even fraction.
-/

namespace DeviceGateway

/-- A binary64 number, by its interchange bits. -/
structure Binary64 where
  bits : UInt64
  deriving DecidableEq, Repr

namespace Binary64

/-- Positive zero. -/
def zero : Binary64 := ⟨0⟩

/-- Positive infinity. -/
def infinity : Binary64 := ⟨0x7FF0000000000000⟩

/-- A quiet NaN. -/
def nan : Binary64 := ⟨0x7FF8000000000000⟩

/-- The sign bit, below zero or minus zero. -/
def isNegative (x : Binary64) : Bool := 0x8000000000000000 ≤ x.bits

/-- The bits without the sign. -/
def magnitude (x : Binary64) : Nat := x.bits.toNat % 0x8000000000000000

/-- Neither an infinity nor a NaN. -/
def isFinite (x : Binary64) : Bool := x.magnitude < 0x7FF0000000000000

/-- An exponent of all ones with a fraction. -/
def isNaN (x : Binary64) : Bool := 0x7FF0000000000000 < x.magnitude

/-- Either of the two zeros. -/
def isZero (x : Binary64) : Bool := x.magnitude = 0

/-- The same number with the other sign. -/
def neg (x : Binary64) : Binary64 := ⟨x.bits ^^^ 0x8000000000000000⟩

/-- The leading bit of a normal number's significand. -/
def leadingBit : Nat := 0x10000000000000

/-- The whole number `m` of a finite number's absolute value `m · 2^q`. -/
def significand (x : Binary64) : Nat :=
  let m := x.magnitude % leadingBit
  if x.magnitude / leadingBit = 0 then m else leadingBit + m

/-- The exponent `q` of a finite number's absolute value `m · 2^q`. -/
def exponent (x : Binary64) : Int :=
  (if x.magnitude / leadingBit = 0 then 1 else (x.magnitude / leadingBit : Nat)) - 1075

/-- The quotient rounded to the nearest whole number, ties to the even one. -/
def roundDiv (num den : Nat) : Nat :=
  let q := num / den
  let r := num % den
  if 2 * r < den then q
  else if den < 2 * r then q + 1
  else if q % 2 = 0 then q else q + 1

/-- The numerator and the denominator of `num / den · 2^e`. -/
def scaled (num den : Nat) (e : Int) : Nat × Nat :=
  if 0 ≤ e then (num * Nat.pow 2 e.toNat, den)
  else (num, den * Nat.pow 2 (-e).toNat)

/-- The exponent of the greatest power of two that is not above `num / den`. -/
def floorLog2 (num den : Nat) : Int :=
  let e : Int := (num.log2 : Int) - den.log2
  let (a, b) := scaled num den (-e)
  if a < b then e - 1 else e

/-- The number nearest to `num / den`: infinity from half a step above the greatest one. -/
def ofRatio (num den : Nat) : Binary64 :=
  if num = 0 then zero
  else
    let e := max (floorLog2 num den - 52) (-1074)
    let (a, b) := scaled num den (-e)
    let m := roundDiv a b
    let magnitude := if m < leadingBit then m else (e + 1074).toNat * leadingBit + m
    if magnitude < 0x7FF0000000000000 then ⟨UInt64.ofNat magnitude⟩ else infinity

/-- The number nearest to `n · 10^k`. -/
def ofDecimal (n : Nat) (k : Int) : Binary64 :=
  if 0 ≤ k then ofRatio (n * Nat.pow 10 k.toNat) 1 else ofRatio n (Nat.pow 10 (-k).toNat)

/-- The product of two finite numbers that are not negative. -/
def mul (x y : Binary64) : Binary64 :=
  let (a, b) := scaled (x.significand * y.significand) 1 (x.exponent + y.exponent)
  ofRatio a b

/-- The quotient of two finite numbers that are not negative, the second not zero. -/
def div (x y : Binary64) : Binary64 :=
  let (a, b) := scaled x.significand y.significand (x.exponent - y.exponent)
  ofRatio a b

end Binary64

end DeviceGateway
