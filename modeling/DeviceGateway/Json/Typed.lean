import DeviceGateway.Json.Skip
import DeviceGateway.Decimal.Notation
import DeviceGateway.Schema.Mismatch

/-
  Reading a JSON text straight into what a schema asks for. A mismatch stands where the text had
  been read to when it was noticed.
-/

namespace DeviceGateway.Json

open Schema

/-- What a scalar is, as a message names it. -/
def found : Json → Found
  | .null => .null
  | .bool b => .bool b
  | .int n => .int n
  | .float x => .float x.wireText
  | .str s => .str s
  | .arr _ => .seq
  | .obj _ => .map

/-- Stops because of a mismatch. -/
def unfit {α : Type} (m : Mismatch) (rest : Bytes) : Except Stop α := stopAt (.unfit m.message) rest

/-- Stops on a value of the wrong type: a scalar is read, a bracket is not. -/
def wrongType {α : Type} (fuel : Nat) (expected : String) (bs : Bytes) : Except Stop α :=
  match bs with
  | [] => stopOn .expectedValue []
  | b :: r =>
    if b = 0x5B then unfit (.wrongType .seq expected) (b :: r)
    else if b = 0x7B then unfit (.wrongType .map expected) (b :: r)
    else
      let scalar : Read Json :=
        if b = 0x22 then (string fuel r).map fun (s, t) => (.str s, t)
        else if b = 0x2D then number false r
        else if isDigitOctet b then number true (b :: r)
        else if b = 0x6E then (word [0x75, 0x6C, 0x6C] r).map fun t => (.null, t)
        else if b = 0x74 then (word [0x72, 0x75, 0x65] r).map fun t => (.bool true, t)
        else if b = 0x66 then (word [0x61, 0x6C, 0x73, 0x65] r).map fun t => (.bool false, t)
        else stopOn .expectedValue (b :: r)
      match scalar with
      | .ok (v, t) => unfit (.wrongType v.found expected) t
      | .error e => .error e

/-- A string, where one is asked for in these words. -/
def expectString (fuel : Nat) (expected : String) (bs : Bytes) : Read String :=
  match skipSpace bs with
  | [] => stopOn .endInValue []
  | b :: r => if b = 0x22 then string fuel r else wrongType fuel expected (b :: r)

/-- The colon behind a key. -/
def expectColon (bs : Bytes) : Except Stop Bytes :=
  match skipSpace bs with
  | [] => stopOn .endInObject []
  | b :: r => if b = 0x3A then .ok r else stopOn .expectedColon (b :: r)

/-- Null, where nothing but a name is asked for. -/
def expectNull (fuel : Nat) (bs : Bytes) : Except Stop Bytes :=
  match skipSpace bs with
  | [] => stopOn .endInValue []
  | b :: r =>
    if b = 0x6E then word [0x75, 0x6C, 0x6C] r else wrongType fuel "unit" (b :: r)

/-- Is there another item of a list? Leaves the text at the item or at the closing bracket. -/
def nextItem (isFirst : Bool) (bs : Bytes) : Read Bool :=
  match skipSpace bs with
  | [] => stopOn .endInList []
  | b :: r =>
    if b = 0x5D then .ok (false, b :: r)
    else if isFirst then .ok (true, b :: r)
    else if b = 0x2C then
      match skipSpace r with
      | [] => stopOn .endInValue []
      | c :: s => if c = 0x5D then stopOn .trailingComma (c :: s) else .ok (true, c :: s)
    else stopOn .expectedListEnd (b :: r)

/-- Is there another key of an object? Leaves the text at the key or at the closing brace. -/
def nextKey (isFirst : Bool) (bs : Bytes) : Read Bool :=
  match skipSpace bs with
  | [] => stopOn .endInObject []
  | b :: r =>
    if b = 0x7D then .ok (false, b :: r)
    else if isFirst then
      if b = 0x22 then .ok (true, b :: r) else stopOn .keyNotString (b :: r)
    else if b = 0x2C then
      match skipSpace r with
      | [] => stopOn .endInValue []
      | c :: s =>
        if c = 0x22 then .ok (true, c :: s)
        else if c = 0x7D then stopOn .trailingComma (c :: s)
        else stopOn .keyNotString (c :: s)
    else stopOn .expectedObjectEnd (b :: r)

/-- The end of a list after the items that were asked for. -/
def endList (bs : Bytes) : Except Stop Bytes :=
  match skipSpace bs with
  | [] => stopOn .endInList []
  | b :: r =>
    if b = 0x5D then .ok r
    else if b = 0x2C then
      let s := skipSpace r
      stopOn (if s.head? = some 0x5D then .trailingComma else .trailingCharacters) s
    else stopOn .trailingCharacters (b :: r)

/-- The end of an object. -/
def endObject (bs : Bytes) : Except Stop Bytes :=
  match skipSpace bs with
  | [] => stopOn .endInObject []
  | b :: r =>
    if b = 0x7D then .ok r
    else if b = 0x2C then stopOn .trailingComma (b :: r)
    else stopOn .trailingCharacters (b :: r)

/-- What is left behind the end of a bracket, or from where its end was missed. -/
def behindEnd (close : UInt8) (bs : Bytes) : Bytes :=
  match skipSpace bs with
  | [] => []
  | b :: r =>
    if b = close then r
    else if b = 0x2C && close = 0x5D then skipSpace r
    else b :: r

end DeviceGateway.Json
