import DeviceGateway.Decimal.Binary64

/-
  JSON values. A whole number that fits 64 bits is exact; every other number is binary64. An
  object keeps its keys in ascending order, each once.
-/

namespace DeviceGateway

/-- A JSON value. -/
inductive Json
  | null
  | bool (b : Bool)
  | int (n : Int)
  | float (x : Binary64)
  | str (s : String)
  | arr (items : List Json)
  | obj (fields : List (String × Json))
  deriving Inhabited, Repr

/-- The fields of an object: keys in ascending order, each once. -/
abbrev Fields := List (String × Json)

namespace Fields

/-- The value of a key. -/
def get? (key : String) : Fields → Option Json
  | [] => none
  | (k, v) :: r => if k = key then some v else get? key r

/-- The fields with a key's value set. -/
def insert (key : String) (value : Json) : Fields → Fields
  | [] => [(key, value)]
  | (k, v) :: r =>
    if key < k then (key, value) :: (k, v) :: r
    else if key = k then (key, value) :: r
    else (k, v) :: insert key value r

/-- The fields with a key's value set unless the key is there already. -/
def insertNew (key : String) (value : Json) : Fields → Fields
  | [] => [(key, value)]
  | (k, v) :: r =>
    if key < k then (key, value) :: (k, v) :: r
    else if key = k then (k, v) :: r
    else (k, v) :: insertNew key value r

/-- The fields without a key. -/
def erase (key : String) (fields : Fields) : Fields := fields.filter (·.1 ≠ key)

/-- The fields of pairs, the last of equal keys winning; the pairs come latest first. -/
def ofLatest (pairs : List (String × Json)) : Fields :=
  pairs.foldl (fun fs p => insertNew p.1 p.2 fs) []

end Fields

namespace Json

/-- An object of the given pairs, the last of equal keys winning. -/
def ofPairs (pairs : List (String × Json)) : Json := .obj (Fields.ofLatest pairs.reverse)

/-- A natural number. -/
def nat (n : Nat) : Json := .int n

/-- A key's value, when this is an object that has it. -/
def get? (key : String) : Json → Option Json
  | .obj fields => Fields.get? key fields
  | _ => none

/-- The text of a string. -/
def str? : Json → Option String
  | .str s => some s
  | _ => none

/-- A whole number from 0 up to below 2^64. -/
def word? : Json → Option Nat
  | .int n => if 0 ≤ n && n < 0x10000000000000000 then some n.toNat else none
  | _ => none

end Json

end DeviceGateway
