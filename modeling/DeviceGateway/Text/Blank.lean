/-
  Blank characters: the property White_Space, all 25 of them, and trimming.
-/

namespace DeviceGateway.Text

/-- Does the character have the property White_Space? -/
def isBlank (c : Char) : Bool :=
  let n := c.toNat
  (9 ≤ n && n ≤ 13) || n == 0x20 || n == 0x85 || n == 0xA0 || n == 0x1680 ||
  (0x2000 ≤ n && n ≤ 0x200A) || n == 0x2028 || n == 0x2029 || n == 0x202F ||
  n == 0x205F || n == 0x3000

/-- Without the blanks in front. -/
def trimStart (cs : List Char) : List Char := cs.dropWhile isBlank

/-- Without the blanks in front and at the end. -/
def trim (cs : List Char) : List Char := (trimStart (trimStart cs).reverse).reverse

/-- An ASCII capital as its small letter; any other character as itself. -/
def lowerAscii (cs : List Char) : List Char := cs.map Char.toLower

/-- Equal up to the case of ASCII letters? -/
def sameIgnoringCase (a b : List Char) : Bool := lowerAscii a == lowerAscii b

/-- The parts between occurrences of `sep`; one part when there is none. -/
def splitOn (sep : Char) : List Char → List (List Char)
  | [] => [[]]
  | c :: cs =>
    match splitOn sep cs with
    | [] => [[c]]
    | p :: ps => if c = sep then [] :: p :: ps else (c :: p) :: ps

/-- A text with `first` in front of it and `rest` in front of its further lines. -/
def moveIn (first rest text : String) : String :=
  first ++ ("\n" ++ rest).intercalate ((splitOn '\n' text.toList).map String.ofList)

/-- The parts before and after the first `sep`. -/
def splitOnce (sep : Char) (cs : List Char) : Option (List Char × List Char) :=
  match cs.dropWhile (· ≠ sep) with
  | [] => none
  | _ :: after => some (cs.takeWhile (· ≠ sep), after)

/-- What follows `start`, when the text starts with it. -/
def after? (start text : List Char) : Option (List Char) :=
  if start.isPrefixOf text then some (text.drop start.length) else none

end DeviceGateway.Text
