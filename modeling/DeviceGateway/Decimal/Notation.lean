import DeviceGateway.Decimal.Shortest

/-
  Two ways to write a binary64 number with the fewest digits that read back: the wire's, which
  changes to an exponent for very small and very large numbers, and the positional one of
  messages about settings.
-/

namespace DeviceGateway

namespace Decimal

/-- The digits of a number. -/
def digitChars (n : Nat) : List Char := Nat.toDigits 10 n

/-- Digits with the point after the first `k` of them, zeros filling in on either side. -/
def positional (d : Decimal) : List Char :=
  let ds := digitChars d.digits
  if 0 ≤ d.exponent then ds ++ List.replicate d.exponent.toNat '0' ++ ['.', '0']
  else
    let point : Int := ds.length + d.exponent
    if 0 < point then ds.take point.toNat ++ '.' :: ds.drop point.toNat
    else '0' :: '.' :: List.replicate (-point).toNat '0' ++ ds

/-- One digit, the point and the other digits if there are any, and a signed exponent. -/
def scientific (d : Decimal) : List Char :=
  let ds := digitChars d.digits
  let e : Int := d.exponent + ds.length - 1
  let head := match ds with
    | [a] => [a]
    | a :: r => a :: '.' :: r
    | [] => []
  head ++ 'e' :: (if e < 0 then '-' else '+') :: digitChars e.natAbs

end Decimal

namespace Binary64

/-- A minus for a negative number. -/
def signed (x : Binary64) (cs : List Char) : String :=
  String.ofList (if x.isNegative then '-' :: cs else cs)

/-- The wire's text of a finite number: positional from 1e-5 up to below 1e16. -/
def wireText (x : Binary64) : String :=
  let d := x.shortest
  let point : Int := (Decimal.digitChars d.digits).length + d.exponent
  if x.isZero || (-5 < point && point ≤ 16) then x.signed d.positional
  else x.signed d.scientific

/-- The positional text of any number. -/
def plainText (x : Binary64) : String :=
  if x.isNaN then "NaN"
  else if x.isFinite then x.signed x.shortest.positional
  else x.signed ['i', 'n', 'f']

end Binary64

end DeviceGateway
