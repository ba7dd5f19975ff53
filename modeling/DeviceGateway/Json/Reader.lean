import DeviceGateway.Json.Token

/-
  Reading one JSON value from octets. Brackets may stand 127 deep; of equal keys the last one
  wins.
-/

namespace DeviceGateway.Json

/-- How deep brackets may stand in one another. -/
def maxDepth : Nat := 127

/-- The items of a list after its opening bracket, up to and with the closing one; `done` holds
the items so far, latest first. -/
def items (item : Bytes → Read Json) (fuel : Nat) (done : List Json) (bs : Bytes) :
    Read (List Json) :=
  match fuel, skipSpace bs with
  | 0, r => stopOn .endInList r
  | _ + 1, [] => stopOn .endInList []
  | n + 1, b :: r =>
    if b = 0x5D then .ok (done.reverse, r)
    else if done.isEmpty then
      match item (b :: r) with
      | .ok (x, s) => items item n [x] s
      | .error e => .error e
    else if b = 0x2C then
      match skipSpace r with
      | [] => stopOn .endInValue []
      | c :: s =>
        if c = 0x5D then stopOn .trailingComma (c :: s)
        else match item (c :: s) with
          | .ok (x, t) => items item n (x :: done) t
          | .error e => .error e
    else stopOn .expectedListEnd (b :: r)

/-- A key, its colon and its value, from the key's quote on. -/
def field (item : Bytes → Read Json) (fuel : Nat) (bs : Bytes) :
    Except Stop ((String × Json) × Bytes) := do
  let (key, r) ← string fuel (bs.drop 1)
  match skipSpace r with
  | [] => stopOn .endInObject []
  | b :: s =>
    if b = 0x3A then
      let (value, t) ← item s
      return ((key, value), t)
    else stopOn .expectedColon (b :: s)

/-- The fields of an object after its opening brace, up to and with the closing one; `done`
holds the fields so far, latest first. -/
def fields (item : Bytes → Read Json) (fuel : Nat) (done : List (String × Json)) (bs : Bytes) :
    Read Json :=
  match fuel, skipSpace bs with
  | 0, r => stopOn .endInObject r
  | _ + 1, [] => stopOn .endInObject []
  | n + 1, b :: r =>
    if b = 0x7D then .ok (.obj (Fields.ofLatest done), r)
    else if done.isEmpty then
      if b = 0x22 then
        match field item n (b :: r) with
        | .ok (f, s) => fields item n [f] s
        | .error e => .error e
      else stopOn .keyNotString (b :: r)
    else if b = 0x2C then
      match skipSpace r with
      | [] => stopOn .endInValue []
      | c :: s =>
        if c = 0x22 then
          match field item n (c :: s) with
          | .ok (f, t) => fields item n (f :: done) t
          | .error e => .error e
        else if c = 0x7D then stopOn .trailingComma (c :: s)
        else stopOn .keyNotString (c :: s)
    else stopOn .expectedObjectEnd (b :: r)

/-- A value that begins with an octet other than a bracket. -/
def scalar (fuel : Nat) (b : UInt8) (r : Bytes) : Read Json :=
  if b = 0x22 then (string fuel r).map fun (s, t) => (.str s, t)
  else if b = 0x2D then number false r
  else if isDigitOctet b then number true (b :: r)
  else if b = 0x6E then (word [0x75, 0x6C, 0x6C] r).map fun t => (.null, t)
  else if b = 0x74 then (word [0x72, 0x75, 0x65] r).map fun t => (.bool true, t)
  else if b = 0x66 then (word [0x61, 0x6C, 0x73, 0x65] r).map fun t => (.bool false, t)
  else stopOn .expectedValue (b :: r)

/-- A value with at most `depth` brackets in one another, blanks before it passed over. -/
def value (fuel : Nat) : (depth : Nat) → Bytes → Read Json
  | 0, bs =>
    match skipSpace bs with
    | [] => stopOn .endInValue []
    | b :: r => if b = 0x5B || b = 0x7B then stopOn .tooDeep (b :: r) else scalar fuel b r
  | d + 1, bs =>
    match skipSpace bs with
    | [] => stopOn .endInValue []
    | b :: r =>
      if b = 0x5B then (items (value fuel d) fuel [] r).map fun (xs, s) => (.arr xs, s)
      else if b = 0x7B then fields (value fuel d) fuel [] r
      else scalar fuel b r

/-- The value of a whole text, with blanks around it. -/
def parse (input : Bytes) : Except Fault Json :=
  match value (input.length + 1) maxDepth input with
  | .ok (v, r) =>
    match skipSpace r with
    | [] => .ok v
    | s => .error ((⟨.trailingCharacters, s.drop 1⟩ : Stop).fault input)
  | .error e => .error (e.fault input)

end DeviceGateway.Json
