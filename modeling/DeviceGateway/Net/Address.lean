import DeviceGateway.Text.Blank

/-
  IP addresses with a port: the texts that are accepted, and the one text that is written.
-/

namespace DeviceGateway.Net

/-- An IP address. -/
inductive Ip
  | v4 (a b c d : Nat)
  /-- Eight groups of sixteen bits, and a scope, zero when there is none. -/
  | v6 (groups : List Nat) (scope : Nat)
  deriving DecidableEq, Repr

/-- An IP address and a port. -/
structure Address where
  ip : Ip
  port : Nat
  deriving DecidableEq, Repr

/-- Is it an IPv6 address? -/
def Address.isV6 (a : Address) : Bool :=
  match a.ip with
  | .v4 .. => false
  | .v6 .. => true

/-! ## Reading -/

/-- The value of a digit in a base up to sixteen. -/
def digit? (base : Nat) (c : Char) : Option Nat :=
  let n := c.toNat
  let v := if 0x30 ≤ n && n ≤ 0x39 then n - 0x30
    else if 0x61 ≤ n && n ≤ 0x66 then n - 0x61 + 10
    else if 0x41 ≤ n && n ≤ 0x46 then n - 0x41 + 10
    else 16
  if v < base then some v else none

/-- The digits in front and what follows them. -/
def digits (base : Nat) : List Char → List Nat × List Char
  | [] => ([], [])
  | c :: cs =>
    match digit? base c with
    | some d => let (ds, r) := digits base cs; (d :: ds, r)
    | none => ([], c :: cs)

/-- A number of at least one digit, at most `limit`. -/
def number (base limit : Nat) (cs : List Char) : Option (Nat × List Char) :=
  match digits base cs with
  | ([], _) => none
  | (ds, r) =>
    let n := ds.foldl (fun n d => n * base + d) 0
    if n ≤ limit then some (n, r) else none

/-- One octet of an IPv4 address: no more than three digits, and no zero in front of others. -/
def octet (cs : List Char) : Option (Nat × List Char) :=
  match digits 10 cs with
  | ([], _) => none
  | (d :: ds, r) =>
    let n := ds.foldl (fun n d => n * 10 + d) d
    if (d = 0 && !ds.isEmpty) || 2 < ds.length || 255 < n then none else some (n, r)

/-- A character that has to stand in front. -/
def expect (c : Char) : List Char → Option (List Char)
  | d :: cs => if d = c then some cs else none
  | [] => none

/-- An IPv4 address. -/
def ipv4 (cs : List Char) : Option ((Nat × Nat × Nat × Nat) × List Char) := do
  let (a, r) ← octet cs
  let (b, r) ← octet (← expect '.' r)
  let (c, r) ← octet (← expect '.' r)
  let (d, r) ← octet (← expect '.' r)
  return ((a, b, c, d), r)

/-- A group of an IPv6 address: one to four hexadecimal digits. -/
def group (cs : List Char) : Option (Nat × List Char) :=
  match digits 16 cs with
  | ([], _) => none
  | (ds, r) => if 4 < ds.length then none else some (ds.foldl (fun n d => n * 16 + d) 0, r)

/-- The next part after its colon, unless it is the first one. -/
def afterColon {α : Type} (isFirst : Bool) (part : List Char → Option (α × List Char))
    (cs : List Char) : Option (α × List Char) :=
  if isFirst then part cs else (expect ':' cs).bind part

/-- Up to `room` groups; an IPv4 address may end them and counts as two. Also tells whether one
did. -/
def groups (isFirst : Bool) : (room : Nat) → List Char → List Nat × Bool × List Char
  | 0, cs => ([], false, cs)
  | room + 1, cs =>
    match if 1 ≤ room then afterColon isFirst ipv4 cs else none with
    | some ((a, b, c, d), r) => ([a * 256 + b, c * 256 + d], true, r)
    | none =>
      match afterColon isFirst group cs with
      | some (g, r) => let (gs, dotted, s) := groups false room r; (g :: gs, dotted, s)
      | none => ([], false, cs)

/-- An IPv6 address: eight groups, or fewer with two colons for one or more groups of zero. -/
def ipv6 (cs : List Char) : Option (List Nat × List Char) :=
  let (head, dotted, r) := groups true 8 cs
  if head.length = 8 then some (head, r)
  else if dotted then none
  else do
    let r ← expect ':' (← expect ':' r)
    let (tail, _, s) := groups true (7 - head.length) r
    return (head ++ List.replicate (8 - head.length - tail.length) 0 ++ tail, s)

/-- The port after its colon. -/
def colonPort (cs : List Char) : Option (Nat × List Char) := (expect ':' cs).bind (number 10 65535)

/-- The scope of an IPv6 address after a percent sign; zero when there is none. -/
def scopeId (cs : List Char) : Nat × List Char :=
  match (expect '%' cs).bind (number 10 4294967295) with
  | some (n, r) => (n, r)
  | none => (0, cs)

/-- The address that a whole text writes: an IPv6 address stands in brackets. -/
def Address.parse? (text : String) : Option Address :=
  let cs := text.toList
  let v4 := do
    let ((a, b, c, d), r) ← ipv4 cs
    let (p, r) ← colonPort r
    if r.isEmpty then some (Address.mk (.v4 a b c d) p) else none
  let v6 := do
    let (gs, r) ← ipv6 (← expect '[' cs)
    let (s, r) := scopeId r
    let (p, r) ← colonPort (← expect ']' r)
    if r.isEmpty then some (Address.mk (.v6 gs s) p) else none
  v4.or v6

/-! ## Writing -/

/-- Where the longest run of two or more zero groups starts, and its length: the first of equal
runs. -/
def zeroRun (gs : List Nat) : Nat × Nat :=
  let runAt (i : Nat) := ((gs.drop i).takeWhile (· = 0)).length
  let best := (List.range gs.length).foldl
    (fun best i => if best.2 < runAt i then (i, runAt i) else best) (0, 0)
  if 2 ≤ best.2 then best else (0, 0)

/-- Groups between colons. -/
def groupTexts (gs : List Nat) : String :=
  ":".intercalate (gs.map fun g => String.ofList (Nat.toDigits 16 g))

/-- The text of an IPv6 address. -/
def ipv6Text (gs : List Nat) : String :=
  match gs with
  | [0, 0, 0, 0, 0, 0xFFFF, x, y] =>
    "::ffff:" ++ ".".intercalate ([x / 256, x % 256, y / 256, y % 256].map toString)
  | _ =>
    let (i, n) := zeroRun gs
    if n = 0 then groupTexts gs
    else groupTexts (gs.take i) ++ "::" ++ groupTexts (gs.drop (i + n))

/-- The text of an address. -/
def Address.text (a : Address) : String :=
  match a.ip with
  | .v4 w x y z => ".".intercalate ([w, x, y, z].map toString) ++ ":" ++ toString a.port
  | .v6 gs s =>
    "[" ++ ipv6Text gs ++ (if s = 0 then "" else "%" ++ toString s) ++ "]:" ++ toString a.port

end DeviceGateway.Net
