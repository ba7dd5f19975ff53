import DeviceGateway.Json.Token

/-
  Passing over a value that nobody asked for: brackets may stand at any depth, escapes need not
  make characters, numbers may have any size, and a control character in a string is not read.
-/

namespace DeviceGateway.Json

/-- Passes over a string after its first quote. -/
def skipString (fuel : Nat) (bs : Bytes) : Except Stop Bytes :=
  match fuel, bs with
  | 0, r => stopAt .endInString r
  | _ + 1, [] => stopAt .endInString []
  | n + 1, b :: r =>
    if b = 0x22 then .ok r
    else if b = 0x5C then
      match r with
      | [] => stopAt .endInString []
      | c :: s =>
        if c = 0x75 then
          match hexEscape s with
          | .ok (_, t) => skipString n t
          | .error e => .error e
        else if [0x22, 0x5C, 0x2F, 0x62, 0x66, 0x6E, 0x72, 0x74].contains c then skipString n s
        else stopAt .invalidEscape s
    else if b < 0x20 then stopAt .controlCharacter (b :: r)
    else skipString n r

/-- Passes over an exponent after its letter. -/
def skipExponent (bs : Bytes) : Except Stop Bytes :=
  let r := match bs with
    | b :: r => if b = 0x2B || b = 0x2D then r else b :: r
    | [] => []
  match r with
  | [] => stopAt .invalidNumber []
  | b :: s => if isDigitOctet b then .ok (s.dropWhile isDigitOctet) else stopAt .invalidNumber s

/-- Passes over a number after its sign. -/
def skipNumber : Bytes → Except Stop Bytes
  | [] => stopAt .invalidNumber []
  | b :: r =>
    if !isDigitOctet b then stopAt .invalidNumber r
    else if b = 0x30 && digitNext r then stopOn .invalidNumber r
    else
      let s := if b = 0x30 then r else r.dropWhile isDigitOctet
      if s.head? = some 0x2E then
        let t := s.drop 1
        if !digitNext t then stopOn .invalidNumber t
        else
          let u := t.dropWhile isDigitOctet
          if letterNext 0x65 u then skipExponent (u.drop 1) else .ok u
      else if letterNext 0x65 s then skipExponent (s.drop 1)
      else .ok s

/-- A bracket that is open while a value is passed over. -/
inductive Bracket
  | list
  | object
  deriving DecidableEq, Repr

/-- What stands next in the value that is passed over. -/
inductive Due
  /-- A value. -/
  | value
  /-- A comma or the end of the innermost bracket. -/
  | more
  /-- The first item or the end of the innermost bracket. -/
  | first

/-- Passes over the key of an object and its colon. -/
def skipKey (fuel : Nat) (bs : Bytes) : Except Stop Bytes :=
  match skipSpace bs with
  | [] => stopOn .endInObject []
  | b :: r =>
    if b ≠ 0x22 then stopOn .keyNotString (b :: r)
    else
      match skipString fuel r with
      | .error e => .error e
      | .ok s =>
        match skipSpace s with
        | [] => stopOn .endInObject []
        | c :: t => if c = 0x3A then .ok t else stopOn .expectedColon (c :: t)

/-- Passes over a value that is no bracket. -/
def skipScalar (fuel : Nat) (b : UInt8) (r : Bytes) : Except Stop Bytes :=
  if b = 0x22 then skipString fuel r
  else if b = 0x2D then skipNumber r
  else if isDigitOctet b then skipNumber (b :: r)
  else if b = 0x6E then word [0x75, 0x6C, 0x6C] r
  else if b = 0x74 then word [0x72, 0x75, 0x65] r
  else if b = 0x66 then word [0x61, 0x6C, 0x73, 0x65] r
  else stopOn .expectedValue (b :: r)

/-- Passes over what is due and over all brackets that are open, innermost first. -/
def skipFrom (fuel : Nat) (due : Due) (openBrackets : List Bracket) (bs : Bytes) :
    Except Stop Bytes :=
  match fuel with
  | 0 => stopOn .endInValue bs
  | n + 1 =>
    match due, openBrackets, skipSpace bs with
    | .value, _, [] => stopOn .endInValue []
    | .value, brackets, b :: r =>
      if b = 0x5B then skipFrom n .first (.list :: brackets) r
      else if b = 0x7B then skipFrom n .first (.object :: brackets) r
      else
        match skipScalar n b r with
        | .ok s => skipFrom n .more brackets s
        | .error e => .error e
    | .more, [], _ => .ok bs
    | .first, [], _ => .ok bs
    | _, .list :: _, [] => stopOn .endInList []
    | _, .object :: _, [] => stopOn .endInObject []
    | .first, .list :: outer, b :: r =>
      if b = 0x5D then skipFrom n .more outer r
      else skipFrom n .value (.list :: outer) (b :: r)
    | .first, .object :: outer, b :: r =>
      if b = 0x7D then skipFrom n .more outer r
      else
        match skipKey n (b :: r) with
        | .ok s => skipFrom n .value (.object :: outer) s
        | .error e => .error e
    | .more, .list :: outer, b :: r =>
      if b = 0x2C then skipFrom n .value (.list :: outer) r
      else if b = 0x5D then skipFrom n .more outer r
      else stopOn .expectedListEnd (b :: r)
    | .more, .object :: outer, b :: r =>
      if b = 0x2C then
        match skipKey n r with
        | .ok s => skipFrom n .value (.object :: outer) s
        | .error e => .error e
      else if b = 0x7D then skipFrom n .more outer r
      else stopOn .expectedObjectEnd (b :: r)

/-- Passes over one value, in at most two steps an octet. -/
def skipValue (fuel : Nat) (bs : Bytes) : Except Stop Bytes := skipFrom (2 * fuel) .value [] bs

end DeviceGateway.Json
