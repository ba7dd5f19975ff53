import DeviceGateway.Bytes

/-
  Reading UTF-8, one octet at a time. `Reader.push` refuses an octet as soon as no valid text
  starts with the octets up to it, so a text that arrives in pieces is refused at the first
  octet that rules it out. And cutting texts at an octet, which may only be done in front of an
  octet that starts a character, or at the end.
-/

namespace DeviceGateway.Utf8

/-- A character under way: the octets still owed, the range of the next one, and the bits so far. -/
structure Pending where
  owed : Nat
  low : UInt8 := 0x80
  high : UInt8 := 0xBF
  code : Nat
  deriving DecidableEq, Repr

/-- What a first octet above ASCII begins. -/
def begin? (b : UInt8) : Option Pending :=
  if b < 0xC2 then none
  else if b ≤ 0xDF then some { owed := 1, code := b.toNat - 0xC0 }
  else if b == 0xE0 then some { owed := 2, low := 0xA0, code := 0 }
  else if b == 0xED then some { owed := 2, high := 0x9F, code := 0xD }
  else if b ≤ 0xEF then some { owed := 2, code := b.toNat - 0xE0 }
  else if b == 0xF0 then some { owed := 3, low := 0x90, code := 0 }
  else if b ≤ 0xF3 then some { owed := 3, code := b.toNat - 0xF0 }
  else if b == 0xF4 then some { owed := 3, high := 0x8F, code := 4 }
  else none

/-- The characters read so far, latest first, and the character under way. -/
structure Reader where
  chars : List Char := []
  pending : Option Pending := none
  deriving DecidableEq, Repr

/-- One more octet, or `none` where UTF-8 cannot hold it. -/
def Reader.push (r : Reader) (b : UInt8) : Option Reader :=
  match r.pending with
  | none =>
    if b < 0x80 then some { r with chars := Char.ofNat b.toNat :: r.chars }
    else (begin? b).map fun p => { r with pending := some p }
  | some p =>
    if p.low ≤ b && b ≤ p.high then
      let code := p.code * 64 + (b.toNat - 0x80)
      if p.owed ≤ 1 then some { chars := Char.ofNat code :: r.chars, pending := none }
      else some { r with pending := some { owed := p.owed - 1, code } }
    else none

/-- All octets in turn, or `none` from the first one that is refused. -/
def Reader.feed (r : Reader) : Bytes → Option Reader
  | [] => some r
  | b :: bs =>
    match r.push b with
    | some r' => r'.feed bs
    | none => none

/-- The text read, when no character is under way. -/
def Reader.text? (r : Reader) : Option String :=
  if r.pending.isNone then some (String.ofList r.chars.reverse) else none

/-- The text of octets that are valid UTF-8. -/
def decode? (bs : Bytes) : Option String :=
  (Reader.feed {} bs).bind Reader.text?

/-- Reads on, with U+FFFD once for every octet that begins nothing and for every character that
breaks off. -/
def Reader.mend (r : Reader) : Bytes → Reader
  | [] => if r.pending.isNone then r else { chars := '\uFFFD' :: r.chars }
  | b :: bs =>
    match r.push b with
    | some r' => r'.mend bs
    | none =>
      let broken : Reader := { chars := '\uFFFD' :: r.chars }
      if r.pending.isNone then broken.mend bs
      else
        match broken.push b with
        | some r' => r'.mend bs
        | none => Reader.mend { chars := '\uFFFD' :: broken.chars } bs

/-- The text of any octets, with U+FFFD for what is not UTF-8. -/
def mended (bs : Bytes) : String := String.ofList ((Reader.mend {} bs).chars.reverse)

/-! ## Texts cut at an octet -/

/-- A text from an octet on. -/
def dropOctets : Nat → List Char → List Char
  | 0, cs => cs
  | _, [] => []
  | n, c :: cs => dropOctets (n - c.utf8Size) cs

/-- A text up to an octet. -/
def takeOctets : Nat → List Char → List Char
  | 0, _ => []
  | _, [] => []
  | n, c :: cs => c :: takeOctets (n - c.utf8Size) cs

/-- Does the octet start a character? -/
def startsCharacter (b : UInt8) : Bool := b < 0x80 || 0xC0 ≤ b

/-- May a text of these octets be cut in front of the `n`th? -/
def isBoundary (octets : Bytes) (n : Nat) : Bool :=
  n = 0 ||
    match octets[n]? with
    | some b => startsCharacter b
    | none => n = octets.length

/-- The last boundary up to the `n`th octet, looked for from there backwards; none if the way leads
out of the text. -/
def lastBoundary? (octets : Bytes) (n : Nat) : Option Nat :=
  if isBoundary octets n then some n
  else
    match n with
    | 0 => none
    | n + 1 => lastBoundary? octets n

/-- A text up to an octet; none if it may not be cut there. -/
def front? (s : String) (n : Nat) : Option String :=
  if isBoundary (utf8 s) n then some (String.ofList (takeOctets n s.toList)) else none

/-- The way back ends, at the latest at the start of the text. -/
theorem exists_lastBoundary (octets : Bytes) (n : Nat) : ∃ k, lastBoundary? octets n = some k ∧
    k ≤ n ∧ isBoundary octets k = true ∧ ∀ j ≤ n, isBoundary octets j = true → j ≤ k := by
  induction n with
  | zero => exact ⟨0, rfl, Nat.le_refl 0, rfl, fun j hj _ => hj⟩
  | succ n ih =>
    unfold lastBoundary?
    split
    · next hboundary => exact ⟨n + 1, rfl, Nat.le_refl _, hboundary, fun j hj _ => hj⟩
    · next hinside =>
      obtain ⟨k, hlast, hle, hboundary, hgreatest⟩ := ih
      refine ⟨k, hlast, Nat.le_succ_of_le hle, hboundary, fun j hj hj' => ?_⟩
      have hne : j ≠ n + 1 := fun h => hinside (h ▸ hj')
      exact hgreatest j (by omega) hj'

end DeviceGateway.Utf8
