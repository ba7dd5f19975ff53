import DeviceGateway.Bytes

/-
  Request targets. A target is a path with a query, an absolute address whose path counts, an
  asterisk, or a bare authority, which has no path. Fragments are dropped and escapes are kept.
-/

namespace DeviceGateway.Http

/-- What a target asks for. -/
structure Target where
  path : Bytes
  query : Option Bytes := none
  deriving DecidableEq, Repr

namespace Target

/-- A letter or a digit. -/
def isAlphanumeric (b : UInt8) : Bool :=
  isDigitOctet b || (0x41 ≤ b && b ≤ 0x5A) || (0x61 ≤ b && b ≤ 0x7A)

/-- May the octet stand in a path? -/
def isPathOctet (b : UInt8) : Bool :=
  b == 0x21 || b == 0x22 || (0x24 ≤ b && b ≤ 0x3B) || b == 0x3D || (0x40 ≤ b && b ≤ 0x5F) ||
    (0x61 ≤ b && b ≤ 0x7E) || 0x7F ≤ b

/-- May the octet stand in a query? -/
def isQueryOctet (b : UInt8) : Bool :=
  b == 0x21 || (0x24 ≤ b && b ≤ 0x3B) || b == 0x3D || 0x3F ≤ b

/-- May the octet stand in an authority? -/
def isAuthorityOctet (b : UInt8) : Bool :=
  isAlphanumeric b || "!$&'()*+,-.:;=@[]_~%".toList.any (fun c => c.toNat == b.toNat)

/-- A path, a query and a fragment. -/
def ofPath? (bs : Bytes) : Option Target :=
  let whole := bs.takeWhile (· != 0x23)
  let path := whole.takeWhile (· != 0x3F)
  match whole.drop path.length with
  | [] => if path.all isPathOctet then some { path } else none
  | _ :: query =>
    if path.all isPathOctet && query.all isQueryOctet then some { path, query := some query }
    else none

/-- What has been seen of an authority. -/
structure Authority where
  colons : Nat := 0
  opened : Bool := false
  shut : Bool := false
  percent : Bool := false
  /-- Does it end in an at sign so far? -/
  atSign : Bool := false

/-- One more octet of an authority. -/
def Authority.push (a : Authority) (b : UInt8) : Option Authority :=
  let a := { a with atSign := false }
  if !isAuthorityOctet b then none
  else if b == 0x3A then some { a with colons := a.colons + 1 }
  else if b == 0x5B then
    if a.percent || a.opened then none else some { a with opened := true }
  else if b == 0x5D then
    if !a.opened || a.shut then none
    else some { a with shut := true, colons := 0, percent := false }
  else if b == 0x40 then some { a with colons := 0, percent := false, atSign := true }
  else if b == 0x25 then some { a with percent := true }
  else some a

/-- Is a whole authority in order: brackets in pairs, one port at most, no escape in the host? -/
def Authority.isWhole (a : Authority) : Bool :=
  a.opened == a.shut && a.colons ≤ 1 && !a.percent && !a.atSign

/-- How many colons an authority may hold at all. -/
def maxColons : Nat := 8

/-- Reads an authority up to the path, the query or the fragment. One colon too many ends the
reading, but not the authority. -/
def scanAuthority (a : Authority) : Bytes → Option (Authority × Bytes)
  | [] => some (a, [])
  | b :: bs =>
    if b == 0x2F || b == 0x3F || b == 0x23 then some (a, b :: bs)
    else if b == 0x3A && maxColons ≤ a.colons then some (a, [])
    else
      match a.push b with
      | none => none
      | some a => scanAuthority a bs

/-- What follows an authority that is in order. -/
def afterAuthority? (bs : Bytes) : Option Bytes :=
  match scanAuthority {} bs with
  | some (a, rest) => if a.isWhole then some rest else none
  | none => none

/-- How long a scheme may be. -/
def maxSchemeLength : Nat := 64

/-- May the octet stand in a scheme? -/
def isSchemeOctet (b : UInt8) : Bool :=
  isAlphanumeric b || b == 0x2B || b == 0x2D || b == 0x2E || b == 0x7E

/-- What follows a scheme and its two slashes, when the target starts with one. -/
def afterScheme? (bs : Bytes) : Option (Option Bytes) :=
  let scheme := bs.takeWhile isSchemeOctet
  match bs.drop scheme.length with
  | 0x3A :: 0x2F :: 0x2F :: rest =>
    if maxSchemeLength < scheme.length then none else some (some rest)
  | _ => some none

/-- The target that octets write. -/
def parse? (bs : Bytes) : Option Target :=
  match bs with
  | [] => none
  | [0x2A] => some { path := [0x2A] }
  | 0x2F :: _ => ofPath? bs
  | _ => do
    match ← afterScheme? bs with
    | none =>
      let rest ← afterAuthority? bs
      if rest.isEmpty then return { path := [] } else none
    | some bs =>
      let rest ← afterAuthority? bs
      if rest.length = bs.length then none
      let target ← ofPath? rest
      return if target.path.isEmpty then { target with path := [0x2F] } else target

end Target

end DeviceGateway.Http
