import DeviceGateway.Text.Quoted

/-
  How a value can fail to be what a schema asks for, and the wording of it.
-/

namespace DeviceGateway.Schema

/-- What was found, as a message names it. -/
inductive Found
  | null
  | unit
  | bool (b : Bool)
  | int (n : Int)
  /-- A number that is not whole, by its text. -/
  | float (text : String)
  | str (s : String)
  | seq
  | map
  deriving DecidableEq, Repr

/-- The words for what was found. -/
def Found.words : Found → String
  | .null => "null"
  | .unit => "unit value"
  | .bool b => "boolean `" ++ (if b then "true" else "false") ++ "`"
  | .int n => "integer `" ++ toString n ++ "`"
  | .float text => "floating point `" ++ text ++ "`"
  | .str s => "string " ++ Text.quoted s
  | .seq => "sequence"
  | .map => "map"

/-- How a value fails to be what is asked for. -/
inductive Mismatch
  | wrongType (found : Found) (expected : String)
  | wrongValue (found : Found) (expected : String)
  | wrongLength (length : Nat) (expected : String)
  | missingField (name : String)
  | duplicateField (name : String)
  | unknownVariant (name : String) (variants : List String)
  /-- Anything else, in its own words. -/
  | other (words : String)
  deriving DecidableEq, Repr

/-- The names that a value may have, as a message lists them. -/
def oneOf : List String → String
  | [] => "there are no variants"
  | [a] => "expected `" ++ a ++ "`"
  | [a, b] => "expected `" ++ a ++ "` or `" ++ b ++ "`"
  | names => "expected one of " ++ ", ".intercalate (names.map fun n => "`" ++ n ++ "`")

/-- The wording of a mismatch. -/
def Mismatch.message : Mismatch → String
  | .wrongType found expected => "invalid type: " ++ found.words ++ ", expected " ++ expected
  | .wrongValue found expected => "invalid value: " ++ found.words ++ ", expected " ++ expected
  | .wrongLength n expected => "invalid length " ++ toString n ++ ", expected " ++ expected
  | .missingField name => "missing field `" ++ name ++ "`"
  | .duplicateField name => "duplicate field `" ++ name ++ "`"
  | .unknownVariant name variants => "unknown variant `" ++ name ++ "`, " ++ oneOf variants
  | .other words => words

end DeviceGateway.Schema
