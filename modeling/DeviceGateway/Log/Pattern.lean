import DeviceGateway.Net.Address
import DeviceGateway.Text.Blank

/-
  The values that a log filter may ask for: a number, or a regular expression. Only whether a text
  is one matters here; a reader goes through the expression character by character.
-/

namespace DeviceGateway.Log.Pattern

/-! ## Regular expressions -/

/-- Where the reader of an expression stands. -/
inductive Place
  | plain
  /-- Behind a backslash, in as many brackets. -/
  | escape (brackets : Nat)
  /-- In the number of a character: digits to come, and its value so far. -/
  | code (brackets left value : Nat)
  /-- Before the letter of a class. -/
  | classLetter (brackets : Nat)
  /-- Behind an opening parenthesis. -/
  | group
  /-- In the flags of a group, the first of which may begin a name. -/
  | flags (isFirst : Bool)
  | nameMark
  | name (isEmpty : Bool)
  /-- Behind an opening bracket, where a closing one stands for itself. -/
  | bracket (outer : Nat) (mayNegate : Bool)
  | inBrackets (brackets : Nat)
  deriving DecidableEq, Repr

/-- A reader: its place, the groups that are open, and whether something stands in front that can
be repeated. -/
structure Reader where
  place : Place := .plain
  depth : Nat := 0
  isOperand : Bool := false
  deriving DecidableEq, Repr

namespace Reader

/-- Goes on behind something that stands in as many brackets. -/
def resume (r : Reader) (brackets : Nat) : Reader :=
  if brackets = 0 then { r with place := .plain, isOperand := true }
  else { r with place := .inBrackets brackets }

/-- Closes a group. -/
def closeGroup (r : Reader) (isOperand : Bool) : Option Reader :=
  if r.depth = 0 then none else some { place := .plain, depth := r.depth - 1, isOperand }

/-- A character outside of brackets. Counted repetitions cannot be written here, for a closing
brace would end the field. -/
def plain (r : Reader) (c : Char) : Option Reader :=
  match c with
  | '(' => some { place := .group, depth := r.depth + 1 }
  | ')' => r.closeGroup true
  | '|' => some { r with isOperand := false }
  | '?' | '*' | '+' => if r.isOperand then some r else none
  | '\x7b' => none
  | '[' => some { r with place := .bracket 0 true }
  | '\\' => some { r with place := .escape 0 }
  | _ => some { r with place := .plain, isOperand := true }

/-- A character in brackets. -/
def inside (r : Reader) (brackets : Nat) (c : Char) : Option Reader :=
  match c with
  | ']' => some (r.resume (brackets - 1))
  | '[' => some { r with place := .bracket brackets true }
  | '\\' => some { r with place := .escape brackets }
  | _ => some { r with place := .inBrackets brackets }

/-- The character behind a backslash. Brackets hold characters, and no edges of words or lines. -/
def escaped (r : Reader) (brackets : Nat) (c : Char) : Option Reader :=
  if c = 'x' then some { r with place := .code brackets 2 0 }
  else if c = 'u' then some { r with place := .code brackets 4 0 }
  else if c = 'U' then some { r with place := .code brackets 8 0 }
  else if c = 'p' || c = 'P' then some { r with place := .classLetter brackets }
  else if "aftnrvdDsSwW".toList.contains c then some (r.resume brackets)
  else if "AzbB<>".toList.contains c then if brackets = 0 then some (r.resume 0) else none
  else if c.toNat < 0x80 && !c.isAlphanum && ' ' ≤ c && c ≠ '\x7f' then some (r.resume brackets)
  else none

/-- One more character. -/
def push (r : Reader) (c : Char) : Option Reader :=
  match r.place with
  | .plain => r.plain c
  | .escape brackets => r.escaped brackets c
  | .code brackets left value =>
    match Net.digit? 16 c with
    | none => none
    | some d =>
      let value := value * 16 + d
      if left = 1 then if value.isValidChar then some (r.resume brackets) else none
      else some { r with place := .code brackets (left - 1) value }
  | .classLetter brackets =>
    if "CLMNPSZ".toList.contains c then some (r.resume brackets) else none
  | .group =>
    if c = '?' then some { r with place := .flags true } else { r with place := .plain }.plain c
  | .flags isFirst =>
    if c = ':' then some { r with place := .plain }
    else if c = ')' then if isFirst then none else r.closeGroup false
    else if c = '<' && isFirst then some { r with place := .name true }
    else if c = 'P' && isFirst then some { r with place := .nameMark }
    else if "imsUuxR-".toList.contains c then some { r with place := .flags false }
    else none
  | .nameMark => if c = '<' then some { r with place := .name true } else none
  | .name isEmpty =>
    if c = '>' then if isEmpty then none else some { r with place := .plain }
    else if c = '_' || c.isAlpha || (!isEmpty && (c.isDigit || c = '.')) then
      some { r with place := .name false }
    else none
  | .bracket outer mayNegate =>
    if c = '^' && mayNegate then some { r with place := .bracket outer false }
    else if c = ']' then some { r with place := .inBrackets (outer + 1) }
    else r.inside (outer + 1) c
  | .inBrackets brackets => r.inside brackets c

end Reader

/-- Is the text a regular expression? -/
def isExpression (text : List Char) : Bool :=
  match text.foldlM Reader.push {} with
  | some r => r.place = .plain && r.depth = 0
  | none => false

/-! ## Numbers -/

/-- Is the text a number, whole or not, without its sign? -/
def isNumber (text : List Char) : Bool :=
  let digits (cs : List Char) : Bool := cs.all Char.isDigit
  let power (cs : List Char) : Bool :=
    let cs := if cs.head? = some '+' || cs.head? = some '-' then cs.drop 1 else cs
    !cs.isEmpty && digits cs
  let mantissa (cs : List Char) : Bool :=
    match Text.splitOnce '.' cs with
    | none => !cs.isEmpty && digits cs
    | some (whole, part) => digits whole && digits part && !(whole ++ part).isEmpty
  let lower := Text.lowerAscii text
  ["inf", "infinity", "nan"].any (·.toList = lower) ||
    (match Text.splitOnce 'e' lower with
      | none => mantissa lower
      | some (m, e) => mantissa m && power e)

/-- Can a value be asked for with the text? -/
def isValue (text : List Char) : Bool :=
  isExpression text || (text.head? = some '+' && isNumber (text.drop 1))

end DeviceGateway.Log.Pattern
