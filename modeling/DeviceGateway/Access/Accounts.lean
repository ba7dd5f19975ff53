import DeviceGateway.Access.Level
import DeviceGateway.Schema.Data

/-
  The accounts that the settings list. Of accounts with one name the last one counts.
-/

namespace DeviceGateway

open Schema

/-- An account. -/
structure Account where
  name : String
  password : String
  level : Level := .control
  deriving DecidableEq, Repr

/-- A level as settings write it: its name, or a map with the name as its only key and nothing
as its value. -/
def Level.ofData (format : Format) : Data → Except Mismatch Level
  | .str s => named s
  | .map [(name, value)] => do
    let level ← named name
    match format, value with
    | .json, .null => .ok level
    | .toml, .map [] => .ok level
    | .toml, .seq [] => .ok level
    | .json, d => d.wrongType "unit"
    | .toml, .map _ => .error (.other "expected empty table")
    | .toml, .seq _ => .error (.other "expected empty array")
    | .toml, _ => .error (.other "expected table")
  | .map _ =>
    match format with
    | .json => .error (.wrongValue .map "map with a single key")
    | .toml => .error (.other "wanted exactly 1 element")
  | d =>
    match format with
    | .json => d.wrongType "string or map"
    | .toml => .error (.other "wanted string or table")
where
  /-- The level of a name. -/
  named (name : String) : Except Mismatch Level :=
    match Level.ofName? name with
    | some level => .ok level
    | none => .error (.unknownVariant name (Level.all.map Level.name))

namespace Account

/-- An account as settings write it. -/
def rule (format : Format) : RecordRule :=
  { words := "struct UserEntry"
    fields := [
      { name := "name", check := accepts (Data.text "a string"), required := true },
      { name := "password", check := accepts (Data.text "a string"), required := true },
      { name := "level", check := accepts (Level.ofData format) }] }

/-- The account that a value is. -/
def ofData (format : Format) (d : Data) : Except Mismatch Account := do
  let es ← (rule format).entries format d
  return {
    name := valueOr es "name" (Data.text "a string") ""
    password := valueOr es "password" (Data.text "a string") ""
    level := valueOr es "level" (Level.ofData format) .control }

/-- The accounts of a list. -/
def listOfData (format : Format) : Data → Except Mismatch (List Account)
  | .seq items => items.mapM (ofData format)
  | d => d.wrongType "a sequence"

end Account

/-- The account that counts for a name: the last one. -/
def Account.find? (accounts : List Account) (name : String) : Option Account :=
  (accounts.filter (·.name = name)).getLast?

end DeviceGateway
