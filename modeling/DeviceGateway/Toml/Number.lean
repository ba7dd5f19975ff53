import DeviceGateway.Toml.Text
import DeviceGateway.Decimal.Binary64

/-
  Numbers, dates and times in a TOML text.
-/

namespace DeviceGateway.Toml

/-- The value of a digit in a base up to sixteen. -/
def digitOf? (base : Nat) (c : Char) : Option Nat :=
  (hexDigit? c).bind fun d => if d < base then some d else none

/-- Digits with single underscores between them, from the first digit on. -/
def digitsFrom? (base : Nat) (done : List Nat) : List Char → Reads (List Nat)
  | '_' :: c :: r =>
    match digitOf? base c with
    | some d => digitsFrom? base (d :: done) r
    | none => none
  | ['_'] => none
  | c :: r =>
    match digitOf? base c with
    | some d => digitsFrom? base (d :: done) r
    | none => some (done.reverse, c :: r)
  | [] => some (done.reverse, [])

/-- At least one digit. -/
def digits? (base : Nat) : List Char → Reads (List Nat)
  | c :: r => (digitOf? base c).bind fun d => digitsFrom? base [d] r
  | [] => none

/-- The number that digits write. -/
def ofDigits (base : Nat) (ds : List Nat) : Nat := ds.foldl (fun n d => n * base + d) 0

/-- A sign: is it a minus? -/
def sign : List Char → Bool × List Char
  | '+' :: r => (false, r)
  | '-' :: r => (true, r)
  | cs => (false, cs)

/-- The digits of a whole number: a zero stands alone. -/
def wholeDigits? : List Char → Reads (List Nat)
  | '0' :: r => some ([0], r)
  | cs => digits? 10 cs

/-- A whole number in 64 bits with a sign. -/
def inRange? (n : Int) : Option Int :=
  if -0x8000000000000000 ≤ n && n < 0x8000000000000000 then some n else none

/-- A whole number: decimal with a sign, or hexadecimal, octal or binary after its mark. -/
def integer? (cs : List Char) : Reads Int :=
  let based (base : Nat) (r : List Char) : Reads Int :=
    (digits? base r).bind fun (ds, s) => (inRange? (ofDigits base ds)).map fun n => (n, s)
  match cs with
  | '0' :: 'x' :: r => based 16 r
  | '0' :: 'o' :: r => based 8 r
  | '0' :: 'b' :: r => based 2 r
  | _ =>
    let (minus, r) := sign cs
    (wholeDigits? r).bind fun (ds, s) =>
      let n : Int := ofDigits 10 ds
      (inRange? (if minus then -n else n)).map fun n => (n, s)

/-- The exponent of a number, after its letter. -/
def exponent? (cs : List Char) : Reads Int :=
  let (minus, r) := sign cs
  (digits? 10 r).map fun (ds, s) =>
    let n : Int := ofDigits 10 ds
    (if minus then -n else n, s)

/-- What a number with a point or an exponent comes to. -/
inductive FloatRead
  /-- No such number stands here. -/
  | absent
  /-- One begins here, but it is broken. -/
  | broken
  | read (x : Binary64) (rest : List Char)

/-- The number `±n · 10^k`; exponents beyond reason are cut to where the result is sure. -/
def floatOf (minus : Bool) (ds : List Nat) (k : Int) (rest : List Char) : FloatRead :=
  let n := ofDigits 10 ds
  let width : Int := ds.length
  let x :=
    if n = 0 then Binary64.zero
    else if 400 < k + width then Binary64.infinity
    else if k + width < -400 then Binary64.zero
    else Binary64.ofDecimal n k
  if minus then .read x.neg rest
  else if x.isFinite then .read x rest
  else .broken

/-- A number with a point or an exponent; positive ones beyond the range are refused. -/
def float (cs : List Char) : FloatRead :=
  let (minus, r) := sign cs
  match r with
  | 'i' :: 'n' :: 'f' :: s =>
    .read (if minus then Binary64.infinity.neg else Binary64.infinity) s
  | 'n' :: 'a' :: 'n' :: s => .read (if minus then Binary64.nan.neg else Binary64.nan) s
  | _ =>
    let withExponent (ds : List Nat) (k : Int) (s : List Char) : FloatRead :=
      match exponent? s with
      | some (e, t) => floatOf minus ds (e + k) t
      | none => .broken
    match wholeDigits? r with
    | none => .absent
    | some (ds, '.' :: s) =>
      match digits? 10 s with
      | none => .broken
      | some (fs, t) =>
        match t with
        | 'e' :: u => withExponent (ds ++ fs) (-(fs.length : Int)) u
        | 'E' :: u => withExponent (ds ++ fs) (-(fs.length : Int)) u
        | _ => floatOf minus (ds ++ fs) (-(fs.length : Int)) t
    | some (ds, 'e' :: s) => withExponent ds 0 s
    | some (ds, 'E' :: s) => withExponent ds 0 s
    | some _ => .absent

/-! ## Dates and times -/

/-- A number of exactly so many digits. -/
def fixedDigits? (width : Nat) (cs : List Char) : Option (Nat × List Char) := do
  let ds ← (cs.take width).mapM (digitOf? 10)
  if ds.length = width then some (ofDigits 10 ds, cs.drop width) else none

/-- A number of two digits between bounds. -/
def pair? (low high : Nat) (cs : List Char) : Reads Nat :=
  (fixedDigits? 2 cs).bind fun (n, r) => if low ≤ n && n ≤ high then some (n, r) else none

/-- A character that has to stand here. -/
def mark? (c : Char) : List Char → Option (List Char)
  | d :: r => if d = c then some r else none
  | [] => none

/-- The days of a month. -/
def daysIn (year month : Nat) : Nat :=
  let leap := year % 4 = 0 && (year % 100 ≠ 0 || year % 400 = 0)
  if month = 2 then (if leap then 29 else 28)
  else if [4, 6, 9, 11].contains month then 30
  else 31

/-- What follows a time of day; `none` when it is broken behind its first colon. -/
def timeRest? (cs : List Char) : Option (List Char) := do
  let (_, r) ← pair? 0 59 cs
  let (_, r) ← pair? 0 60 (← mark? ':' r)
  match r with
  | '.' :: s =>
    let t := s.dropWhile fun c => (digitOf? 10 c).isSome
    if t.length = s.length then none else some t
  | _ => some r

/-- What follows an offset from universal time, if one stands here. -/
def offsetRest? : List Char → Option (List Char)
  | 'Z' :: r => some r
  | 'z' :: r => some r
  | c :: r =>
    if c = '+' || c = '-' then do
      let (_, s) ← pair? 0 23 r
      let (_, s) ← pair? 0 59 (← mark? ':' s)
      some s
    else some (c :: r)
  | [] => some []

/-- What a date or a time comes to. -/
inductive MomentRead
  | absent
  | broken
  | read (rest : List Char)

/-- Does a time of day begin here? Its hour and its first colon decide. -/
def hourMark? (cs : List Char) : Option (List Char) :=
  (pair? 0 23 cs).bind fun (_, r) => mark? ':' r

/-- A date, a time, or both. -/
def moment (cs : List Char) : MomentRead :=
  match (fixedDigits? 4 cs).bind fun (y, r) => (mark? '-' r).map fun s => (y, s) with
  | some (year, r) =>
    let day := do
      let (month, s) ← pair? 1 12 r
      let (day, s) ← pair? 1 31 (← mark? '-' s)
      if day ≤ daysIn year month then some s else none
    match day with
    | none => .broken
    | some s =>
      match s with
      | c :: t =>
        if c = 'T' || c = 't' || c = ' ' then
          match hourMark? t with
          | none => .read s
          | some u =>
            match (timeRest? u).bind offsetRest? with
            | some v => .read v
            | none => .broken
        else .read s
      | [] => .read s
  | none =>
    match hourMark? cs with
    | none => .absent
    | some r =>
      match timeRest? r with
      | some s => .read s
      | none => .broken

end DeviceGateway.Toml
