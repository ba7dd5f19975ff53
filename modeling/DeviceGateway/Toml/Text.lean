import DeviceGateway.Bytes

/-
  Reading the parts of a TOML text that hold no other values: blanks, comments, line ends and the
  four kinds of strings. A reader gives what it read and what follows, or nothing.
-/

namespace DeviceGateway.Toml

/-- What a reader gives. -/
abbrev Reads (α : Type) := Option (α × List Char)

/-- A space or a tab. -/
def isBlank (c : Char) : Bool := c = ' ' || c = '\t'

/-- What follows the blanks. -/
def skipBlanks (cs : List Char) : List Char := cs.dropWhile isBlank

/-- What follows a line end. -/
def newline? : List Char → Option (List Char)
  | '\n' :: r => some r
  | '\r' :: '\n' :: r => some r
  | _ => none

/-- May the character stand in a comment? -/
def isCommentChar (c : Char) : Bool := c = '\t' || (0x20 ≤ c.toNat && c ≠ '\x7F')

/-- What follows a comment, if one comes next. -/
def skipComment : List Char → List Char
  | '#' :: r => r.dropWhile isCommentChar
  | cs => cs

/-- The rest of a line: blanks, a comment, and the end of the line or of the text. -/
def lineEnd? (cs : List Char) : Option (List Char) :=
  match skipComment (skipBlanks cs) with
  | [] => some []
  | r => newline? r

/-- What follows blanks, comments and line ends, with a comment only before a line end. -/
def skipLines (fuel : Nat) (cs : List Char) : Option (List Char) :=
  match fuel with
  | 0 => some cs
  | n + 1 =>
    match skipBlanks cs with
    | '#' :: r => (newline? (r.dropWhile isCommentChar)).bind (skipLines n)
    | r =>
      match newline? r with
      | some s => skipLines n s
      | none => some r

/-! ## Strings -/

/-- May the character stand in a string between double quotes as it is? -/
def isBasicChar (c : Char) : Bool :=
  c = '\t' || (0x20 ≤ c.toNat && c ≠ '"' && c ≠ '\\' && c.toNat ≠ 0x7F)

/-- May the character stand in a string between single quotes? -/
def isLiteralChar (c : Char) : Bool :=
  c = '\t' || (0x20 ≤ c.toNat && c ≠ '\'' && c.toNat ≠ 0x7F)

/-- The value of a hexadecimal digit. -/
def hexDigit? (c : Char) : Option Nat :=
  if c.toNat < 0x80 then hexValue? (UInt8.ofNat c.toNat) else none

/-- The character that a number of hexadecimal digits name. -/
def codePoint? (width : Nat) (cs : List Char) : Option (Char × List Char) := do
  let ds := cs.take width
  if ds.length ≠ width then none
  else
    let values ← ds.mapM hexDigit?
    let n := values.foldl (fun n d => n * 16 + d) 0
    if n.isValidChar then some (Char.ofNat n, cs.drop width) else none

/-- The character of an escape, after its backslash. -/
def escape? : List Char → Reads Char
  | 'b' :: r => some ('\x08', r)
  | 't' :: r => some ('\t', r)
  | 'n' :: r => some ('\n', r)
  | 'f' :: r => some ('\x0c', r)
  | 'r' :: r => some ('\r', r)
  | '"' :: r => some ('"', r)
  | '\\' :: r => some ('\\', r)
  | 'u' :: r => codePoint? 4 r
  | 'U' :: r => codePoint? 8 r
  | _ => none

/-- A string between double quotes on one line, after the first quote. -/
def basic? (fuel : Nat) (done : List Char) (cs : List Char) : Reads String :=
  match fuel, cs with
  | n + 1, c :: r =>
    if c = '"' then some (String.ofList done.reverse, r)
    else if c = '\\' then
      match escape? r with
      | some (d, s) => basic? n (d :: done) s
      | none => none
    else if isBasicChar c then basic? n (c :: done) r
    else none
  | _, _ => none

/-- A string between single quotes on one line, after the first quote. -/
def literal? (cs : List Char) : Reads String :=
  match cs.dropWhile isLiteralChar with
  | '\'' :: r => some (String.ofList (cs.takeWhile isLiteralChar), r)
  | _ => none

/-- What follows blanks and line ends. -/
def skipWhite : List Char → List Char
  | '\r' :: '\n' :: r => skipWhite r
  | c :: r => if isBlank c || c = '\n' then skipWhite r else c :: r
  | [] => []

/-- What follows a backslash at the end of a line: blanks and line ends do not count. -/
def joinLines? (cs : List Char) : Option (List Char) :=
  (newline? (skipBlanks cs)).map skipWhite

/-- The end of a string of several lines at a run of quotes: the last three close it, and up to
two in front of them belong to it. -/
def closing? (quote : Char) (cs : List Char) : Option (Nat × List Char) :=
  let run := (cs.takeWhile (· = quote)).length
  if run < 3 then none else some (min (run - 3) 2, cs.drop (min run 5))

/-- A string between three double quotes, after the first three. -/
def multiBasic? (fuel : Nat) (done : List Char) (cs : List Char) : Reads String :=
  match fuel, cs with
  | n + 1, c :: r =>
    if c = '"' then
      match closing? '"' (c :: r) with
      | some (k, s) => some (String.ofList (List.replicate k '"' ++ done).reverse, s)
      | none => multiBasic? n (c :: done) r
    else if c = '\\' then
      match joinLines? r with
      | some s => multiBasic? n done s
      | none =>
        match escape? r with
        | some (d, s) => multiBasic? n (d :: done) s
        | none => none
    else if isBasicChar c then multiBasic? n (c :: done) r
    else
      match newline? (c :: r) with
      | some s => multiBasic? n ('\n' :: done) s
      | none => none
  | _, _ => none

/-- A string between three single quotes, after the first three. -/
def multiLiteral? (fuel : Nat) (done : List Char) (cs : List Char) : Reads String :=
  match fuel, cs with
  | n + 1, c :: r =>
    if c = '\'' then
      match closing? '\'' (c :: r) with
      | some (k, s) => some (String.ofList (List.replicate k '\'' ++ done).reverse, s)
      | none => multiLiteral? n (c :: done) r
    else if isLiteralChar c then multiLiteral? n (c :: done) r
    else
      match newline? (c :: r) with
      | some s => multiLiteral? n ('\n' :: done) s
      | none => none
  | _, _ => none

/-- A line end right behind the opening quotes does not belong to the string. -/
def skipFirstLineEnd (cs : List Char) : List Char := (newline? cs).getD cs

/-- A string of any kind, from its first quote on. -/
def string? (fuel : Nat) : List Char → Reads String
  | '"' :: '"' :: '"' :: r => multiBasic? fuel [] (skipFirstLineEnd r)
  | '"' :: r => basic? fuel [] r
  | '\'' :: '\'' :: '\'' :: r => multiLiteral? fuel [] (skipFirstLineEnd r)
  | '\'' :: r => literal? r
  | _ => none

/-! ## Keys -/

/-- May the character stand in a key without quotes? -/
def isBareKeyChar (c : Char) : Bool := c.isAlphanum || c = '-' || c = '_'

/-- One part of a key. -/
def keyPart? (fuel : Nat) : List Char → Reads String
  | '"' :: r => basic? fuel [] r
  | '\'' :: r => literal? r
  | cs =>
    let part := cs.takeWhile isBareKeyChar
    if part.isEmpty then none else some (String.ofList part, cs.dropWhile isBareKeyChar)

/-- How many parts a key may have, and how deep values may stand in one another. -/
def maxNesting : Nat := 79

/-- The parts of a key with points between them and blanks around them; `done` holds the parts
so far, latest first. -/
def keyFrom? (fuel room : Nat) (done : List String) (cs : List Char) : Reads (List String) :=
  match room with
  | 0 => none
  | n + 1 =>
    match keyPart? fuel (skipBlanks cs) with
    | none => none
    | some (part, r) =>
      match skipBlanks r with
      | '.' :: s => keyFrom? fuel n (part :: done) s
      | s => some ((part :: done).reverse, s)

/-- A key. -/
def key? (fuel : Nat) (cs : List Char) : Reads (List String) := keyFrom? fuel maxNesting [] cs

end DeviceGateway.Toml
