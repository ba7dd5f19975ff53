import DeviceGateway.Decimal.Binary64

/-
  The fewest decimal digits that read back as a given binary64 number, and of those the digits
  nearest to it.
-/

namespace DeviceGateway

/-- The decimal `digits · 10^exponent`. -/
structure Decimal where
  digits : Nat
  exponent : Int
  deriving DecidableEq, Repr

namespace Decimal

/-- The same decimal without zeros at the end of its digits. -/
def trimmed (fuel : Nat) (d : Decimal) : Decimal :=
  match fuel with
  | 0 => d
  | n + 1 =>
    if d.digits % 10 = 0 && d.digits ≠ 0 then
      trimmed n { digits := d.digits / 10, exponent := d.exponent + 1 }
    else d

end Decimal

namespace Binary64

/-- A finite number above zero between its neighbours, in units of `10^p`: its value is
`value / unit`, and what reads back lies from `low / unit` to `high / unit`. -/
structure Grid where
  value : Nat
  low : Nat
  high : Nat
  unit : Nat
  closed : Bool

/-- The number and its interval on the grid of multiples of `10^p`. -/
def grid (x : Binary64) (p : Int) : Grid :=
  let m := x.significand
  -- Four parts a step: the step below a power of two is half as wide as the one above.
  let below := if m = leadingBit && x.exponent ≠ -1074 then 1 else 2
  let (up, down) := scaled 1 1 (x.exponent - 2)
  let (a, b) :=
    if 0 ≤ p then (up, down * Nat.pow 10 p.toNat) else (up * Nat.pow 10 (-p).toNat, down)
  { value := 4 * m * a, low := (4 * m - below) * a, high := (4 * m + 2) * a, unit := b,
    closed := m % 2 = 0 }

/-- Does the multiple `c` of the unit read back? -/
def Grid.holds (g : Grid) (c : Nat) : Bool :=
  if g.closed then g.low ≤ c * g.unit && c * g.unit ≤ g.high
  else g.low < c * g.unit && c * g.unit < g.high

/-- The multiple next to the number that reads back: of two the nearer, of two as near the even
one. -/
def Grid.hit? (g : Grid) : Option Nat :=
  let c := g.value / g.unit
  let r := g.value % g.unit
  match g.holds c, g.holds (c + 1) with
  | true, true =>
    if 2 * r < g.unit then some c
    else if g.unit < 2 * r then some (c + 1)
    else if c % 2 = 0 then some c else some (c + 1)
  | true, false => some c
  | false, true => some (c + 1)
  | false, false => none

/-- The exponent of the greatest power of ten that is not above a finite number above zero. -/
def floorLog10 (x : Binary64) : Int :=
  let (a, b) := scaled x.significand 1 x.exponent
  -- The estimate from the binary exponent is at most one too low.
  let e : Int := (floorLog2 a b * 30103).fdiv 100000
  let next := e + 1
  let reached :=
    if 0 ≤ next then decide (b * Nat.pow 10 next.toNat ≤ a)
    else decide (b ≤ a * Nat.pow 10 (-next).toNat)
  if reached then next else e

/-- The first of the grids from coarse to fine that has a multiple which reads back. -/
def search (x : Binary64) (p : Int) : (fuel : Nat) → Decimal
  | 0 => ⟨0, 0⟩
  | n + 1 =>
    match (x.grid p).hit? with
    | some c => ⟨c, p⟩
    | none => search x (p - 1) n

/-- The shortest decimal that reads back as a finite number's absolute value: seventeen digits
are always enough. -/
def shortest (x : Binary64) : Decimal :=
  if x.isZero then ⟨0, 0⟩ else (search x x.floorLog10 18).trimmed 18

end Binary64

end DeviceGateway
