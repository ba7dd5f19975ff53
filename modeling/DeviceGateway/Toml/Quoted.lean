/-
  The written form of a TOML string. A plain text stands between double quotes; a text with
  double quotes or backslashes between single ones; line ends and mixed quotes ask for three
  quotes. Escapes are the last resort.
-/

namespace DeviceGateway.Toml

/-- The longest run of a character. -/
def longestRun (c : Char) (cs : List Char) : Nat :=
  (cs.foldl (fun (p : Nat × Nat) d => if d = c then (p.1 + 1, max p.2 (p.1 + 1)) else (0, p.2))
    (0, 0)).2

/-- Must the character be escaped wherever it stands? -/
def isControl (c : Char) : Bool :=
  (c.toNat < 0x20 && c ≠ '\t' && c ≠ '\n') || c.toNat = 0x7F

/-- The four forms of a string. -/
inductive Style
  | basic
  | literal
  | multiBasic
  | multiLiteral
  deriving DecidableEq, Repr

/-- The form that a text is written in. -/
def styleOf (cs : List Char) : Style :=
  let controls := cs.any isControl
  let backslash := cs.contains '\\'
  let lines := cs.contains '\n'
  let doubles := longestRun '"' cs
  let singles := longestRun '\'' cs
  if !controls && !backslash && doubles = 0 && !lines then .basic
  else if !controls && singles = 0 && !lines then .literal
  else if !controls && !backslash && doubles ≤ 2 then .multiBasic
  else if !controls && singles ≤ 2 then .multiLiteral
  else if lines then .multiBasic
  else .basic

/-- Four hexadecimal digits in capitals. -/
def hex4 (n : Nat) : List Char :=
  let ds := (Nat.toDigits 16 n).map Char.toUpper
  List.replicate (4 - ds.length) '0' ++ ds

/-- A character between double quotes, where no quote may stand as it is; `multi` says that line
ends may. -/
def escaped (multi : Bool) (c : Char) : List Char :=
  if c = '"' then ['\\', '"']
  else if c = '\\' then ['\\', '\\']
  else if c = '\n' then (if multi then ['\n'] else ['\\', 'n'])
  else if c = '\t' then ['\\', 't']
  else if c = '\r' then ['\\', 'r']
  else if c = '\x08' then ['\\', 'b']
  else if c = '\x0c' then ['\\', 'f']
  else if isControl c then '\\' :: 'u' :: hex4 c.toNat
  else [c]

/-- Writes characters between double quotes: `multi` says that line ends may stand and that two
quotes in a row may; `run` counts the quotes just written. -/
def escapeFrom (multi : Bool) (run : Nat) (done : List Char) : List Char → List Char
  | [] => done.reverse
  | c :: cs =>
    if c = '"' ∧ multi = true ∧ run < 2 then escapeFrom multi (run + 1) ('"' :: done) cs
    else escapeFrom multi 0 ((escaped multi c).reverseAux done) cs

/-- The written form of a text. Three opening quotes before a text with line ends stand on a line
of their own. -/
def quoted (s : String) : String :=
  let cs := s.toList
  let start := if cs.contains '\n' then ['\n'] else []
  String.ofList <|
    match styleOf cs with
    | .basic => '"' :: escapeFrom false 0 [] cs ++ ['"']
    | .literal => '\'' :: cs ++ ['\'']
    | .multiBasic => ['"', '"', '"'] ++ start ++ escapeFrom true 0 [] cs ++ ['"', '"', '"']
    | .multiLiteral => ['\'', '\'', '\''] ++ start ++ cs ++ ['\'', '\'', '\'']

end DeviceGateway.Toml
