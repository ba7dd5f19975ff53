import DeviceGateway.Json.Reader
import DeviceGateway.Json.Printer

/-
  The messages of a channel. A client sends requests, each an object with a number `msgid` and a
  command name `msg`; every request gets one response with its `msgid`. The gateway also pushes
  events, which have no `msgid`.
-/

namespace DeviceGateway.Channel

/-- The words that every reason for a refused message starts with. -/
def badPayload : String := "bad payload"

/-- Why a message ends its channel. -/
inductive Violation
  | invalidJson (reason : String)
  | notAnObject
  | invalidMsgId
  | invalidCommand
  | nonTextFrame
  | invalidUtf8
  deriving DecidableEq, Repr

/-- The wording of a violation. -/
def Violation.message : Violation → String
  | .invalidJson reason => "payload is not valid JSON: " ++ reason
  | .notAnObject => "payload is not a JSON object"
  | .invalidMsgId => "missing or invalid \"msgid\""
  | .invalidCommand => "missing or invalid \"msg\""
  | .nonTextFrame => "unexpected non-text frame"
  | .invalidUtf8 => "text frame is not valid UTF-8"

/-- A well-formed request: `params` is the whole object. -/
structure Request where
  msgid : Nat
  command : String
  params : Fields
  deriving Inhabited, Repr

namespace Request

/-- The request that a value is. -/
def ofJson : Json → Except Violation Request
  | .obj params =>
    let msgid? := (Fields.get? "msgid" params).bind Json.word?
    let command? := (Fields.get? "msg" params).bind Json.str?
    match msgid?, command? with
    | none, _ => .error .invalidMsgId
    | some _, none => .error .invalidCommand
    | some msgid, some command => .ok { msgid, command, params }
  | _ => .error .notAnObject

/-- The request that a text writes. -/
def parse (text : String) : Except Violation Request :=
  match Json.parse (utf8 text) with
  | .ok value => ofJson value
  | .error fault => .error (.invalidJson fault.message)

/-- A parameter. -/
def param? (r : Request) (key : String) : Option Json := Fields.get? key r.params

/-- A parameter that is a string. -/
def text? (r : Request) (key : String) : Option String := (r.param? key).bind Json.str?

end Request

/-- The answer to one request: fields that its handler gave, and an error if it failed. -/
structure Response where
  msgid : Nat
  error : Option Json := none
  fields : Fields := []
  deriving Inhabited, Repr

namespace Response

/-- Has nothing failed so far? -/
def isAck (r : Response) : Bool := r.error.isNone

/-- The response with a field set. -/
def insert (r : Response) (key : String) (value : Json) : Response :=
  { r with fields := Fields.insert key value r.fields }

/-- The response as a failure. -/
def fail (r : Response) (error : Json) : Response := { r with error := some error }

/-- The message sent: `msgid`, `msg` and `error` are the envelope's own and win over fields of
the same name. -/
def json (r : Response) : Json :=
  let fields := Fields.insert "msgid" (.nat r.msgid) r.fields
  .obj <|
    match r.error with
    | none => Fields.erase "error" (Fields.insert "msg" (.str "ack") fields)
    | some e => Fields.insert "error" e (Fields.insert "msg" (.str "nack") fields)

/-- The text sent. -/
def text (r : Response) : String := r.json.text

end Response

/-- An event that the gateway sends of its own accord. -/
structure Push where
  name : String
  payload : Fields := []
  deriving Inhabited, Repr

namespace Push

/-- The event with a field set. -/
def insert (p : Push) (key : String) (value : Json) : Push :=
  { p with payload := Fields.insert key value p.payload }

/-- The message sent: the name is `msg`, and there is never a `msgid`. -/
def json (p : Push) : Json :=
  .obj (Fields.insert "msg" (.str p.name) (Fields.erase "msgid" p.payload))

/-- The text sent. -/
def text (p : Push) : String := p.json.text

end Push

end DeviceGateway.Channel
