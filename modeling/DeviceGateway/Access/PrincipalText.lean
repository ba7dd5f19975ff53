import DeviceGateway.Access.Level
import DeviceGateway.Json.Typed
import DeviceGateway.Json.Printer

/-
  Principals as JSON: an object with `name` and `level`, or the two in a list. Keys that are not
  asked for are passed over. A level is its name, or an object with the name as the only key and
  null as its value.
-/

namespace DeviceGateway

open Json Schema

/-- The names of all levels. -/
def Level.names : List String := Level.all.map Level.name

/-- The level of a name that was read. -/
def Level.named (name : String) (rest : Bytes) : Read Level :=
  match Level.ofName? name with
  | some level => .ok (level, rest)
  | none => unfit (.unknownVariant name Level.names) rest

/-- A level. -/
def Level.read (fuel : Nat) (bs : Bytes) : Except Stop (Level × Bytes) :=
  match skipSpace bs with
  | [] => stopOn .endInValue []
  | b :: r =>
    if b = 0x22 then do
      let (name, s) ← Json.string fuel r
      Level.named name s
    else if b = 0x7B then do
      let (name, s) ← expectString fuel "variant identifier" r
      let (level, s) ← Level.named name s
      let s ← expectColon s
      let s ← expectNull fuel s
      match skipSpace s with
      | [] => stopAt .endInObject []
      | c :: t => if c = 0x7D then return (level, t) else stopAt .expectedValue (c :: t)
    else stopOn .expectedValue (b :: r)

namespace Principal

/-- The words for a principal in a list. -/
def listWords : String := "struct Principal with 2 elements"

/-- A mismatch noticed inside a bracket stands behind the end of the bracket. -/
def missing {α : Type} (close : UInt8) (m : Mismatch) (bs : Bytes) : Except Stop α :=
  unfit m (behindEnd close bs)

/-- The fields of an object in any order, each at most once. -/
def readFields (fuel : Nat) (name : Option String) (level : Option Level) (isFirst : Bool)
    (bs : Bytes) : Except Stop (Principal × Bytes) :=
  match fuel with
  | 0 => stopOn .endInObject bs
  | n + 1 => do
    let (more, r) ← nextKey isFirst bs
    if !more then
      match name, level with
      | some name, some level => return (⟨name, level⟩, r)
      | none, _ => missing 0x7D (.missingField "name") r
      | _, none => missing 0x7D (.missingField "level") r
    else
      let (key, r) ← Json.string n (r.drop 1)
      if key = "name" then
        if name.isSome then missing 0x7D (.duplicateField "name") r
        else
          let (value, r) ← expectString n "a string" (← expectColon r)
          readFields n (some value) level false r
      else if key = "level" then
        if level.isSome then missing 0x7D (.duplicateField "level") r
        else
          let (value, r) ← Level.read n (← expectColon r)
          readFields n name (some value) false r
      else
        let r ← skipValue n (← expectColon r)
        readFields n name level false r

/-- A principal, blanks before it passed over. -/
def read (fuel : Nat) (bs : Bytes) : Except Stop (Principal × Bytes) :=
  match skipSpace bs with
  | [] => stopOn .endInValue []
  | b :: r =>
    if b = 0x5B then do
      let (more, r) ← nextItem true r
      if !more then missing 0x5D (.wrongLength 0 listWords) r
      let (name, r) ← expectString fuel "a string" r
      let (more, r) ← nextItem false r
      if !more then missing 0x5D (.wrongLength 1 listWords) r
      let (level, r) ← Level.read fuel r
      let r ← endList r
      return (⟨name, level⟩, r)
    else if b = 0x7B then do
      let (p, r) ← readFields fuel none none true r
      let r ← endObject r
      return (p, r)
    else wrongType fuel "struct Principal" (b :: r)

/-- The principal that a whole text writes. -/
def parse (input : Bytes) : Except Fault Principal :=
  match read (input.length + 1) input with
  | .ok (p, r) =>
    match skipSpace r with
    | [] => .ok p
    | s => .error ((⟨.trailingCharacters, s.drop 1⟩ : Stop).fault input)
  | .error e => .error (e.fault input)

/-- A principal as a value. -/
def json (p : Principal) : Json :=
  Json.ofPairs [("name", .str p.name), ("level", .str p.level.name)]

/-- A principal as text: its name first, then its level. -/
def text (p : Principal) : String :=
  "\x7b\"name\":" ++ String.ofList (Json.quoted p.name) ++ ",\"level\":" ++
    String.ofList (Json.quoted p.level.name) ++ "\x7d"

end Principal

end DeviceGateway
