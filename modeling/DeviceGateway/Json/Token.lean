import DeviceGateway.Json.Basic
import DeviceGateway.Json.Fault
import DeviceGateway.Text.Utf8

/-
  The parts of a JSON text that hold no other values: blanks, words, strings and numbers.
-/

namespace DeviceGateway.Json

/-- Blanks between tokens. -/
def isSpace (b : UInt8) : Bool := b = 0x20 || b = 0x0A || b = 0x09 || b = 0x0D

/-- What follows the blanks. -/
def skipSpace (bs : Bytes) : Bytes := bs.dropWhile isSpace

/-- The letters of a word. -/
def word : Bytes → Bytes → Except Stop Bytes
  | [], bs => .ok bs
  | _ :: _, [] => stopAt .endInValue []
  | w :: ws, b :: bs => if b = w then word ws bs else stopAt .expectedIdent bs

/-- Four hexadecimal digits. -/
def hexEscape : Bytes → Read Nat
  | a :: b :: c :: d :: r =>
    match ofHexDigits? [a, b, c, d] with
    | some n => .ok (n, r)
    | none => stopAt .invalidEscape r
  | _ => stopAt .endInString []

/-- The second half of a character above U+FFFF, after the first half. -/
def lowSurrogate (high : Nat) : Bytes → Except Stop (Char × Bytes)
  | [] => stopAt .endInString []
  | b :: r =>
    if b ≠ 0x5C then stopAt .endInHexEscape r
    else match r with
      | [] => stopAt .endInString []
      | c :: s =>
        if c ≠ 0x75 then stopAt .endInHexEscape s
        else do
          let (low, t) ← hexEscape s
          if 0xDC00 ≤ low && low ≤ 0xDFFF then
            return (Char.ofNat ((high - 0xD800) * 0x400 + (low - 0xDC00) + 0x10000), t)
          else stopAt .loneSurrogate t

/-- The character of an escape, after its backslash. -/
def escaped : Bytes → Except Stop (Char × Bytes)
  | [] => stopAt .endInString []
  | b :: r =>
    if b = 0x22 || b = 0x5C || b = 0x2F then .ok (Char.ofNat b.toNat, r)
    else if b = 0x62 then .ok ('\x08', r)
    else if b = 0x66 then .ok ('\x0c', r)
    else if b = 0x6E then .ok ('\n', r)
    else if b = 0x72 then .ok ('\r', r)
    else if b = 0x74 then .ok ('\t', r)
    else if b = 0x75 then do
      let (n, s) ← hexEscape r
      if 0xDC00 ≤ n && n ≤ 0xDFFF then stopAt .loneSurrogate s
      else if 0xD800 ≤ n && n ≤ 0xDBFF then lowSurrogate n s
      else return (Char.ofNat n, s)
    else stopAt .invalidEscape r

/-- A string under way: its characters, how many octets of text there are from the character
under way on, and whether that character is broken. -/
structure Scan where
  reader : Utf8.Reader := {}
  unsettled : Nat := 0
  broken : Bool := false

/-- One more octet. -/
def Scan.octet (s : Scan) (b : UInt8) : Scan :=
  if s.broken then { s with unsettled := s.unsettled + 1 }
  else
    let unsettled := if s.reader.pending.isNone then 1 else s.unsettled + 1
    match s.reader.push b with
    | some reader => { s with reader, unsettled }
    | none => { s with unsettled, broken := true }

/-- One more character that was escaped. -/
def Scan.char (s : Scan) (c : Char) : Scan :=
  if s.broken || s.reader.pending.isSome then
    { s with unsettled := s.unsettled + c.utf8Size, broken := true }
  else { s with reader := { s.reader with chars := c :: s.reader.chars } }

/-- The string at its last quote, from what follows its first quote and what follows its last. A
broken string stops reading as far before its end as the text goes on from the broken character,
which is less than what it takes to write that when there are escapes. -/
def Scan.finish (s : Scan) (whole rest : Bytes) : Read String :=
  match s.broken, s.reader.text? with
  | false, some text => .ok (text, rest)
  | _, _ => stopAt .invalidCodePoint (whole.drop (whole.length - rest.length - s.unsettled))

/-- A string from a scan on; `whole` follows its first quote. -/
def stringFrom (whole : Bytes) (fuel : Nat) (scan : Scan) (bs : Bytes) : Read String :=
  match fuel, bs with
  | 0, r => stopAt .endInString r
  | _ + 1, [] => stopAt .endInString []
  | n + 1, b :: r =>
    if b = 0x22 then scan.finish whole r
    else if b = 0x5C then
      match escaped r with
      | .ok (c, s) => stringFrom whole n (scan.char c) s
      | .error e => .error e
    else if b < 0x20 then stopAt .controlCharacter r
    else stringFrom whole n (scan.octet b) r

/-- A string after its first quote. -/
def string (fuel : Nat) (bs : Bytes) : Read String := stringFrom bs fuel {} bs

/-- Does a decimal digit come next? -/
def digitNext : Bytes → Bool
  | b :: _ => isDigitOctet b
  | [] => false

/-- Does the octet come next, in either case of the letter? -/
def letterNext (lower : UInt8) : Bytes → Bool
  | b :: _ => b = lower || b = lower - 0x20
  | [] => false

/-- Appends the digits that come next to `n` while it stays below `2^64`, counting them. -/
def addDigits (n count : Nat) : Bytes → Nat × Nat × Bytes
  | [] => (n, count, [])
  | b :: r =>
    if isDigitOctet b && n * 10 + digitValue b < 0x10000000000000000 then
      addDigits (n * 10 + digitValue b) (count + 1) r
    else (n, count, b :: r)

/-- The number `±n · 10^k`: `n` is rounded first, then the product or quotient with the rounded
power of ten. Below the range the result is zero; above it the number is refused. -/
def floatOf (positive : Bool) (n : Nat) (k : Int) (rest : Bytes) : Read Json :=
  let x := Binary64.ofRatio n 1
  let power (e : Nat) := Binary64.ofRatio (Nat.pow 10 e) 1
  let sign (y : Binary64) : Json := .float (if positive then y else y.neg)
  if x.isZero then .ok (sign x, rest)
  else if 0 ≤ k then
    if 308 < k then stopAt .numberOutOfRange rest
    else
      let y := x.mul (power k.toNat)
      if y.isFinite then .ok (sign y, rest) else stopAt .numberOutOfRange rest
  else
    let e := (-k).toNat
    if e ≤ 308 then .ok (sign (x.div (power e)), rest)
    else
      let y := x.div (power 308)
      if e ≤ 616 then .ok (sign (y.div (power (e - 308))), rest)
      else .ok (sign Binary64.zero, rest)

/-- The digits of an exponent: the number, or `none` from the digit that takes it to `2^31`. -/
def exponentDigits (n : Nat) : Bytes → Option Nat × Bytes
  | [] => (some n, [])
  | b :: r =>
    if isDigitOctet b then
      if n * 10 + digitValue b < 0x80000000 then exponentDigits (n * 10 + digitValue b) r
      else (none, r)
    else (some n, b :: r)

/-- An exponent after its letter. -/
def exponent (positive : Bool) (n : Nat) (k : Int) (bs : Bytes) : Read Json :=
  let (up, bs) := match bs with
    | b :: r => if b = 0x2B then (true, r) else if b = 0x2D then (false, r) else (true, b :: r)
    | [] => (true, [])
  match bs with
  | [] => stopAt .endInValue []
  | b :: r =>
    if isDigitOctet b then
      match exponentDigits (digitValue b) r with
      | (some e, s) => floatOf positive n (if up then k + e else k - e) s
      | (none, s) =>
        if n ≠ 0 && up then stopAt .numberOutOfRange s
        else floatOf positive 0 0 (s.dropWhile isDigitOctet)
    else stopAt .invalidNumber r

/-- A fraction after its point: digits past the range of `n` are passed over. -/
def fraction (positive : Bool) (n : Nat) (k : Int) (bs : Bytes) : Read Json :=
  let (m, count, r) := addDigits n 0 bs
  if count = 0 && !digitNext r then
    if r.isEmpty then stopAt .endInValue r else stopOn .invalidNumber r
  else
    let s := r.dropWhile isDigitOctet
    if letterNext 0x65 s then exponent positive m (k - count) (s.drop 1)
    else floatOf positive m (k - count) s

/-- A number after its sign. -/
def number (positive : Bool) : Bytes → Read Json
  | [] => stopAt .endInValue []
  | b :: r =>
    if !isDigitOctet b then stopAt .invalidNumber r
    else if b = 0x30 && digitNext r then stopOn .invalidNumber r
    else
      let (n, _, s) := if b = 0x30 then (0, 0, r) else addDigits (digitValue b) 0 r
      let t := s.dropWhile isDigitOctet
      let k := (s.takeWhile isDigitOctet).length
      if t.head? = some 0x2E then fraction positive n k (t.drop 1)
      else if letterNext 0x65 t then exponent positive n k (t.drop 1)
      else if digitNext s then floatOf positive n k t
      else if positive then .ok (.int n, t)
      else if n = 0 || 0x8000000000000000 < n then .ok (.float (Binary64.ofRatio n 1).neg, t)
      else .ok (.int (-n), t)

end DeviceGateway.Json
