import DeviceGateway.Schema.Data

/-
  TOML values. The entries of a table stand in the order of the document.
-/

namespace DeviceGateway.Toml

/-- A TOML value; a date or a time stays as its text. -/
inductive Value
  | string (s : String)
  | integer (n : Int)
  | float (x : Binary64)
  | boolean (b : Bool)
  | moment (text : String)
  | array (items : List Value)
  | table (entries : List (String × Value))
  deriving Inhabited, Repr

/-- The entries of a table. -/
abbrev Entries := List (String × Value)

open Schema

mutual

/-- A value as a schema sees it. -/
def Value.data : Value → Data
  | .string s => .str s
  | .integer n => .int n
  | .float x => .float x.plainText
  | .boolean b => .bool b
  | .moment _ => .moment
  | .array items => .seq (dataOfItems items)
  | .table entries => .map (dataOfEntries entries)

/-- The items of an array as a schema sees them. -/
def dataOfItems : List Value → List Data
  | [] => []
  | x :: xs => x.data :: dataOfItems xs

/-- The entries of a table as a schema sees them. -/
def dataOfEntries : List (String × Value) → List (String × Data)
  | [] => []
  | (k, v) :: es => (k, v.data) :: dataOfEntries es

end

end DeviceGateway.Toml
