import DeviceGateway.Json.Basic
import DeviceGateway.Decimal.Notation
import DeviceGateway.Schema.Mismatch

/-
  Values as a schema sees them, whatever format they were written in.
-/

namespace DeviceGateway.Schema

/-- The format that a value was written in. -/
inductive Format
  | json
  | toml
  deriving DecidableEq, Repr

/-- A value. The entries of a map stand in the order of the document. -/
inductive Data
  | null
  | bool (b : Bool)
  | int (n : Int)
  | float (text : String)
  | str (s : String)
  | seq (items : List Data)
  | map (entries : List (String × Data))
  /-- A date or a time, which is taken for a map without any key that is asked for. -/
  | moment
  deriving Inhabited, Repr

namespace Data

/-- What a value is, as a message names it. -/
def found : Data → Found
  | .null => .null
  | .bool b => .bool b
  | .int n => .int n
  | .float text => .float text
  | .str s => .str s
  | .seq _ => .seq
  | .map _ => .map
  | .moment => .map

/-- The refusal of a value that should be something else. -/
def wrongType {α : Type} (d : Data) (expected : String) : Except Mismatch α :=
  .error (.wrongType d.found expected)

mutual

/-- A JSON value. -/
def ofJson : Json → Data
  | .null => .null
  | .bool b => .bool b
  | .int n => .int n
  | .float x => .float x.wireText
  | .str s => .str s
  | .arr items => .seq (ofItems items)
  | .obj fields => .map (ofFields fields)

/-- The items of an array. -/
def ofItems : List Json → List Data
  | [] => []
  | x :: xs => ofJson x :: ofItems xs

/-- The fields of an object. -/
def ofFields : List (String × Json) → List (String × Data)
  | [] => []
  | (k, v) :: fs => (k, ofJson v) :: ofFields fs

end

/-! ## Single values -/

/-- A text. -/
def text (expected : String) : Data → Except Mismatch String
  | .str s => .ok s
  | d => d.wrongType expected

/-- A truth value. -/
def truth : Data → Except Mismatch Bool
  | .bool b => .ok b
  | d => d.wrongType "a boolean"

/-- A whole number from zero to below `2^bits`. -/
def whole (bits : Nat) : Data → Except Mismatch Nat
  | .int n =>
    if 0 ≤ n && n < Nat.pow 2 bits then .ok n.toNat
    else .error (.wrongValue (.int n) ("u" ++ toString bits))
  | d => d.wrongType ("u" ++ toString bits)

end Data

/-! ## Records -/

/-- A field of a record: its name, the test of its value, and whether it may be left out. -/
structure FieldRule where
  name : String
  check : Data → Except Mismatch Unit
  required : Bool := false

/-- A kind of record: how messages call it, and its fields in order. -/
structure RecordRule where
  words : String
  fields : List FieldRule

namespace RecordRule

/-- The first entry in the document's order whose value does not fit; unknown keys are passed
over. -/
def checkEntries (r : RecordRule) : List (String × Data) → Except Mismatch Unit
  | [] => .ok ()
  | (key, value) :: rest =>
    match r.fields.find? (·.name = key) with
    | none => checkEntries r rest
    | some field =>
      match field.check value with
      | .ok () => checkEntries r rest
      | .error m => .error m

/-- Entries that fit, none of those that are required missing. -/
def complete (r : RecordRule) (es : List (String × Data)) :
    Except Mismatch (List (String × Data)) := do
  r.checkEntries es
  match r.fields.find? fun f => f.required && !es.any (·.1 = f.name) with
  | some f => .error (.missingField f.name)
  | none => .ok es

/-- The entries of a value that fits. A list gives the fields in order; in JSON it may not go on
behind them. -/
def entries (format : Format) (r : RecordRule) : Data → Except Mismatch (List (String × Data))
  | .map es => r.complete es
  | .moment => r.complete []
  | .seq items => do
    let es := (r.fields.map (·.name)).zip items
    r.checkEntries es
    match r.fields.zipIdx.find? fun f => f.1.required && items.length ≤ f.2 with
    | some f =>
      .error (.wrongLength f.2 (r.words ++ " with " ++ toString r.fields.length ++ " elements"))
    | none =>
      if format = .json && r.fields.length < items.length then
        .error (.wrongLength items.length "fewer elements in array")
      else .ok es
  | d => d.wrongType r.words

end RecordRule

/-- The value of a key, or the default when the key is absent. -/
def valueOr {α : Type} (entries : List (String × Data)) (key : String)
    (read : Data → Except Mismatch α) (default : α) : α :=
  match entries.find? (·.1 = key) with
  | some (_, v) =>
    match read v with
    | .ok a => a
    | .error _ => default
  | none => default

/-- The test of a value that some reader accepts. -/
def accepts {α : Type} (read : Data → Except Mismatch α) (d : Data) : Except Mismatch Unit :=
  (read d).map fun _ => ()

end DeviceGateway.Schema
