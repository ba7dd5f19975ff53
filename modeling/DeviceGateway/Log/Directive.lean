import DeviceGateway.Bytes
import DeviceGateway.Log.Pattern
import DeviceGateway.Log.Severity
import DeviceGateway.Text.Alphanumeric
import DeviceGateway.Text.Utf8

/-
  Directives of a log filter, such as `target=info`, `target[span]=info` or `[{field}]=info`: what
  they are for, and up to which severity it is let through.
-/

open DeviceGateway.Utf8 (dropOctets takeOctets)

namespace DeviceGateway.Log

/-- A field that has to be there; it may also have to have a certain value. -/
structure FieldWish where
  name : String
  hasValue : Bool := false
  deriving DecidableEq, Repr

/-- What is let through: messages whose target starts with `target`, up to a severity. A directive
for a span, or for the value of a field, is about what happens within a span. -/
structure Directive where
  target : Option String := none
  hasSpan : Bool := false
  fields : List FieldWish := []
  limit : Severity := .trace
  deriving DecidableEq, Repr

/-- What is wrong with a directive. -/
inductive DirectiveFault
  | malformed
  | severity
  /-- The value of a field cannot be asked for. -/
  | value
  deriving DecidableEq, Repr

/-- The wording of a fault. -/
def DirectiveFault.message : DirectiveFault → String
  | .malformed => "invalid filter directive"
  | .severity => "error parsing level filter: expected one of \"off\", \"error\", \"warn\", " ++
      "\"info\", \"debug\", \"trace\", or a number 0-5"
  | .value => "invalid field filter: error building NFA"

/-- Where the reader of a directive stands, and where in the text the part under way begins. -/
inductive Place
  | start
  /-- In a severity or a target. -/
  | word (since : Nat)
  | span (since : Nat)
  | field (since : Nat)
  | behindFields
  | behindSpan
  | limit (since : Nat)
  deriving DecidableEq, Repr

/-- A directive under way. -/
structure DirectiveReader where
  place : Place := .start
  directive : Directive := {}
  deriving DecidableEq, Repr

/-- Can a target start with the character? -/
def startsTarget (c : Char) : Bool :=
  c = '-' || c = ':' || c = '_' || Text.isAlphanumeric c

/-- The part of a text between two of its octets. -/
def part (text : List Char) (since upTo : Nat) : List Char :=
  dropOctets since (takeOctets upTo text)

/-- The field of a name, behind which a value may stand; what follows a second mark does not
count. -/
def FieldWish.ofText (text : List Char) : Except DirectiveFault FieldWish :=
  if text.isEmpty then .error .malformed
  else
    match Text.splitOnce '=' text with
    | none => .ok { name := String.ofList text }
    | some (name, rest) =>
      if Pattern.isValue (rest.takeWhile (· ≠ '=')) then
        .ok { name := String.ofList name, hasValue := true }
      else .error .value

/-- One more character, whose place in the text is `i`. -/
def DirectiveReader.push (r : DirectiveReader) (text : List Char) (i : Nat) (c : Char) :
    Except DirectiveFault DirectiveReader :=
  let d := r.directive
  match r.place, c with
  | .start, '[' => .ok { r with place := .span (i + 1) }
  | .start, c => if startsTarget c then .ok { r with place := .word i } else .error .malformed
  | .word since, '=' =>
    .ok { place := .limit (i + 1)
          directive := { d with target := some (String.ofList (part text since i)) } }
  | .word since, '[' =>
    .ok { place := .span (i + 1)
          directive := { d with target := some (String.ofList (part text since i)) } }
  | .word _, _ => .ok r
  | .span _, ']' => .ok { place := .behindSpan, directive := { d with hasSpan := true } }
  | .span since, '\x7b' =>
    .ok { place := .field (i + 1)
          directive := { d with hasSpan := !(part text since i).isEmpty } }
  | .span _, _ => .ok r
  | .field since, '\x7d' =>
    match FieldWish.ofText (part text since i) with
    | .ok f => .ok { place := .behindFields, directive := { d with fields := d.fields ++ [f] } }
    | .error e => .error e
  | .field _, _ => .ok r
  | .behindFields, ']' => .ok { r with place := .behindSpan }
  | .behindFields, _ => .error .malformed
  | .behindSpan, '=' => .ok { r with place := .limit (i + 1) }
  | .behindSpan, _ => .error .malformed
  | .limit _, _ => .ok r

/-- All characters in turn, the first of which has its place at `i`. -/
def DirectiveReader.feed (r : DirectiveReader) (text : List Char) (i : Nat) :
    List Char → Except DirectiveFault DirectiveReader
  | [] => .ok r
  | c :: cs =>
    match r.push text i c with
    | .ok r' => r'.feed text (i + c.utf8Size) cs
    | .error e => .error e

/-- The directive at the end of its text. -/
def DirectiveReader.finish (r : DirectiveReader) (text : List Char) :
    Except DirectiveFault Directive :=
  match r.place with
  | .word since =>
    let word := dropOctets since text
    match Severity.ofText? word with
    | some limit => .ok { r.directive with limit }
    | none => .ok { r.directive with target := some (String.ofList word) }
  | .limit since =>
    let word := dropOctets since text
    if word.isEmpty then .ok r.directive
    else
      match Severity.ofText? word with
      | some limit => .ok { r.directive with limit }
      | none => .error .severity
  | .behindSpan => .ok r.directive
  | _ => .error .malformed

/-- The directive that a text writes. Blanks in front and at the end are not read, but places are
counted as if the text began behind the blanks in front, so that its parts are not those which
were read. -/
def Directive.parse (text : String) : Except DirectiveFault Directive :=
  let cs := text.toList
  match DirectiveReader.feed {} cs 0 (Text.trim cs) with
  | .ok r => r.finish cs
  | .error e => .error e

/-- Does the directive speak of messages, whatever spans they are in? -/
def Directive.isStatic (d : Directive) : Bool := !d.hasSpan && d.fields.all (!·.hasValue)

/-- Is the directive about messages of a target? -/
def Directive.fits (d : Directive) (target : String) : Bool :=
  d.target.all (fun t => t.toList.isPrefixOf target.toList) &&
    d.fields.all (Message.fields.contains ·.name)

/-- How closely a directive says what it is about: by its target first, then by its fields. -/
def Directive.closeness (d : Directive) : Nat × Nat :=
  (d.target.elim 0 (utf8Size · + 1), d.fields.length)

end DeviceGateway.Log
