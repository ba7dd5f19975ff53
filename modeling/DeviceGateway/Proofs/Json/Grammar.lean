import DeviceGateway.Json.Reader
import DeviceGateway.Proofs.Json.Fields

/-
  The grammar of JSON texts, apart from any reader. Each relation says of octets that something is
  spelled at their front and what comes behind it, so that the parts of a text are put together by
  naming what is between them. Blanks may stand around every value and every comma, colon and
  bracket; a character may be written as it is or as an escape; and of equal keys the last one
  counts. Brackets stand in one another as deep as `Value` says, which is defined by recursion on
  that depth.
-/

namespace DeviceGateway.Json

/-! ## Blanks -/

/-- Blanks, if any. -/
inductive Gap : Bytes → Bytes → Prop
  | none {rest : Bytes} : Gap rest rest
  | blank {b : UInt8} {bs rest : Bytes} : isSpace b = true → Gap bs rest → Gap (b :: bs) rest

/-! ## Strings -/

/-- Four hexadecimal digits. -/
inductive Hex : Bytes → Nat → Bytes → Prop
  | digits {a b c d : UInt8} {n : Nat} {rest : Bytes} : ofHexDigits? [a, b, c, d] = some n →
      Hex (a :: b :: c :: d :: rest) n rest

/-- Is the number the first half of a character above U+FFFF? -/
def IsHigh (n : Nat) : Prop := 0xD800 ≤ n ∧ n ≤ 0xDBFF

/-- Is the number the second half of a character above U+FFFF? -/
def IsLow (n : Nat) : Prop := 0xDC00 ≤ n ∧ n ≤ 0xDFFF

/-- The rest of an escape behind its backslash. -/
inductive Escape : Bytes → Char → Bytes → Prop
  | quote {rest : Bytes} : Escape (0x22 :: rest) '"' rest
  | backslash {rest : Bytes} : Escape (0x5C :: rest) '\\' rest
  | slash {rest : Bytes} : Escape (0x2F :: rest) '/' rest
  | backspace {rest : Bytes} : Escape (0x62 :: rest) '\x08' rest
  | formFeed {rest : Bytes} : Escape (0x66 :: rest) '\x0c' rest
  | newline {rest : Bytes} : Escape (0x6E :: rest) '\n' rest
  | carriageReturn {rest : Bytes} : Escape (0x72 :: rest) '\r' rest
  | tab {rest : Bytes} : Escape (0x74 :: rest) '\t' rest
  | code {bs rest : Bytes} {n : Nat} : Hex bs n rest → ¬ IsHigh n → ¬ IsLow n →
      Escape (0x75 :: bs) (Char.ofNat n) rest
  | codes {bs mid rest : Bytes} {high low : Nat} : Hex bs high (0x5C :: 0x75 :: mid) → IsHigh high →
      Hex mid low rest → IsLow low →
      Escape (0x75 :: bs) (Char.ofNat ((high - 0xD800) * 0x400 + (low - 0xDC00) + 0x10000)) rest

/-- The characters of a string and its last quote. -/
inductive Letters : Bytes → List Char → Bytes → Prop
  | close {rest : Bytes} : Letters (0x22 :: rest) [] rest
  | plain {c : Char} {bs rest : Bytes} {cs : List Char} : c ≠ '"' → c ≠ '\\' → 0x20 ≤ c.toNat →
      Letters bs cs rest → Letters (String.utf8EncodeChar c ++ bs) (c :: cs) rest
  | escaped {c : Char} {bs mid rest : Bytes} {cs : List Char} : Escape bs c mid →
      Letters mid cs rest → Letters (0x5C :: bs) (c :: cs) rest

/-- A string with its quotes. -/
inductive Quoted : Bytes → String → Bytes → Prop
  | quote {bs rest : Bytes} {s : String} : Letters bs s.toList rest → Quoted (0x22 :: bs) s rest

/-! ## Numbers -/

/-- Are these decimal digits, one at least? -/
def IsDigits (ds : Bytes) : Prop := ds ≠ [] ∧ ∀ b ∈ ds, isDigitOctet b = true

/-- The number that decimal digits write. -/
def decimal (ds : Bytes) : Nat := ds.foldl (fun n b => n * 10 + digitValue b) 0

/-- The parts of a number: whether a minus comes first, its whole digits, the digits of its fraction
if it has one, and whether its exponent is up and the digits of that, if it has one. -/
structure Numeral where
  negative : Bool
  whole : Bytes
  fraction : Option Bytes
  exponent : Option (Bool × Bytes)

/-- A fraction, if any. -/
inductive Fraction : Bytes → Option Bytes → Bytes → Prop
  | none {rest : Bytes} : Fraction rest none rest
  | some {ds rest : Bytes} : IsDigits ds → Fraction (0x2E :: (ds ++ rest)) (some ds) rest

/-- The sign of an exponent, if any. -/
inductive ExponentSign : Bytes → Bool → Bytes → Prop
  | none {rest : Bytes} : ExponentSign rest true rest
  | plus {rest : Bytes} : ExponentSign (0x2B :: rest) true rest
  | minus {rest : Bytes} : ExponentSign (0x2D :: rest) false rest

/-- An exponent, if any. -/
inductive Exponent : Bytes → Option (Bool × Bytes) → Bytes → Prop
  | none {rest : Bytes} : Exponent rest none rest
  | some {e : UInt8} {bs ds rest : Bytes} {up : Bool} : e = 0x65 ∨ e = 0x45 →
      ExponentSign bs up (ds ++ rest) → IsDigits ds → Exponent (e :: bs) (some (up, ds)) rest

/-- A number without its minus. Its first digit is no zero unless it is the only whole one. -/
inductive Unsigned : Bytes → Numeral → Bytes → Prop
  | parts {ds r s rest : Bytes} {negative : Bool} {fraction : Option Bytes}
      {exponent : Option (Bool × Bytes)} : IsDigits ds → (ds.head? = some 0x30 → ds = [0x30]) →
      Fraction r fraction s → Exponent s exponent rest →
      Unsigned (ds ++ r) { negative, whole := ds, fraction, exponent } rest

/-- A number. -/
inductive Number : Bytes → Numeral → Bytes → Prop
  | positive {bs rest : Bytes} {m : Numeral} : m.negative = false → Unsigned bs m rest →
      Number bs m rest
  | negative {bs rest : Bytes} {m : Numeral} : m.negative = true → Unsigned bs m rest →
      Number (0x2D :: bs) m rest

namespace Numeral

/-- The value of `±n · 10^k`, unless that is out of range. -/
def float? (positive : Bool) (n : Nat) (k : Int) : Option Json :=
  (floatOf positive n k []).toOption.map (·.1)

/-- The digits that count, as one number, and the power of ten that it is taken times: digits count
while the number stays below `2^64`, and whole digits from there on make the power greater. -/
def digits (m : Numeral) : Nat × Int :=
  let (n, _, more) := addDigits 0 0 m.whole
  match m.fraction with
  | none => (n, more.length)
  | some ds =>
    let (n, count, _) := addDigits n 0 ds
    (n, more.length - count)

/-- The value of a number that is not an integer of 64 bits. -/
def scaled? (m : Numeral) : Option Json :=
  let (n, k) := m.digits
  match m.exponent with
  | none => float? (!m.negative) n k
  | some (up, ds) =>
    let e := decimal ds
    if e < 0x80000000 then float? (!m.negative) n (if up then k + e else k - e)
    else if n ≠ 0 && up then none
    else float? (!m.negative) 0 0

/-- What a number stands for, unless it is out of range: an integer if it has neither fraction nor
exponent and fits, and if it is not zero with a minus. -/
def value? (m : Numeral) : Option Json :=
  let n := decimal m.whole
  if m.fraction.isSome || m.exponent.isSome then m.scaled?
  else if 0x10000000000000000 ≤ n then m.scaled?
  else if m.negative then
    if n = 0 || 0x8000000000000000 < n then some (.float (Binary64.ofRatio n 1).neg)
    else some (.int (-n))
  else some (.int n)

end Numeral

/-! ## Values -/

/-- A value without brackets. -/
inductive Scalar : Bytes → Json → Bytes → Prop
  | null {rest : Bytes} : Scalar (0x6E :: 0x75 :: 0x6C :: 0x6C :: rest) .null rest
  | true {rest : Bytes} : Scalar (0x74 :: 0x72 :: 0x75 :: 0x65 :: rest) (.bool true) rest
  | false {rest : Bytes} : Scalar (0x66 :: 0x61 :: 0x6C :: 0x73 :: 0x65 :: rest) (.bool false) rest
  | string {bs rest : Bytes} {s : String} : Quoted bs s rest → Scalar bs (.str s) rest
  | number {bs rest : Bytes} {m : Numeral} {v : Json} : Number bs m rest → m.value? = some v →
      Scalar bs v rest

section

variable {α : Type} (R : Bytes → α → Bytes → Prop)

/-- What comes behind an item: the closing bracket, or a comma and a further item. -/
inductive Further (close : UInt8) : Bytes → List α → Bytes → Prop
  | close {bs rest : Bytes} : Gap bs (close :: rest) → Further close bs [] rest
  | item {bs r s t rest : Bytes} {x : α} {xs : List α} : Gap bs (0x2C :: r) → Gap r s → R s x t →
      Further close t xs rest → Further close bs (x :: xs) rest

/-- Items with commas between them, and the closing bracket. -/
inductive Items (close : UInt8) : Bytes → List α → Bytes → Prop
  | none {bs rest : Bytes} : Gap bs (close :: rest) → Items close bs [] rest
  | some {bs r s rest : Bytes} {x : α} {xs : List α} : Gap bs r → R r x s →
      Further R close s xs rest → Items close bs (x :: xs) rest

end

/-- A key, a colon and a value. -/
inductive Member (R : Bytes → Json → Bytes → Prop) : Bytes → String × Json → Bytes → Prop
  | pair {bs r s t rest : Bytes} {key : String} {v : Json} : Quoted bs key r → Gap r (0x3A :: s) →
      Gap s t → R t v rest → Member R bs (key, v) rest

/-- A list or an object of such values; of equal keys the last one counts. -/
inductive Compound (R : Bytes → Json → Bytes → Prop) : Bytes → Json → Bytes → Prop
  | list {bs rest : Bytes} {xs : List Json} : Items R 0x5D bs xs rest →
      Compound R (0x5B :: bs) (.arr xs) rest
  | object {bs rest : Bytes} {pairs : List (String × Json)} : Items (Member R) 0x7D bs pairs rest →
      Compound R (0x7B :: bs) (.obj (Fields.setAll pairs [])) rest

/-- A value with at most so many brackets in one another. -/
def Value : Nat → Bytes → Json → Bytes → Prop
  | 0, bs, v, rest => Scalar bs v rest
  | d + 1, bs, v, rest => Scalar bs v rest ∨ Compound (Value d) bs v rest

theorem Value.of_scalar {d : Nat} {bs rest : Bytes} {v : Json} (h : Scalar bs v rest) :
    Value d bs v rest := by
  cases d with
  | zero => exact h
  | succ d => exact Or.inl h

/-- Do the octets spell the value, with any blanks around it? -/
inductive Spells : Bytes → Json → Prop
  | text {bs r s : Bytes} {v : Json} : Gap bs r → Value maxDepth r v s → Gap s [] → Spells bs v

end DeviceGateway.Json
