import DeviceGateway.Home.State
import DeviceGateway.Json.Reader
import DeviceGateway.Text.Blank

/-
  Requests below `/res/`: what answers them, and the home's own answers.
-/

namespace DeviceGateway

/-- A request for a resource; the path has nothing of `/res/` in front. -/
structure ResourceRequest where
  method : String
  path : String
  query : Option String := none
  body : Bytes := []
  deriving DecidableEq, Repr

/-- The parts of the path between slashes, empty ones left out. -/
def ResourceRequest.segments (r : ResourceRequest) : List String :=
  ((Text.splitOn '/' r.path.toList).filter (!·.isEmpty)).map String.ofList

/-- An answer. -/
structure ResourceReply where
  status : Nat := 200
  contentType : String := "application/json"
  body : Bytes
  deriving DecidableEq, Repr

/-- An answer with a JSON value. -/
def ResourceReply.json (value : Json) : ResourceReply := { body := utf8 value.text }

/-- Why a resource is not served. -/
inductive ResourceError
  | notFound (path : String)
  | methodNotAllowed
  | forbidden
  | badRequest (reason : String)
  deriving DecidableEq, Repr

/-- The wording of a refusal. -/
def ResourceError.message : ResourceError → String
  | .notFound path => "resource not found: " ++ path
  | .methodNotAllowed => "method not allowed"
  | .forbidden => "access denied"
  | .badRequest reason => "bad request: " ++ reason

/-- A command's failure as a refusal. -/
def ResourceError.ofCommand : Channel.CommandError → ResourceError
  | .forbidden => .forbidden
  | .notFound name => .notFound name
  | .invalidArguments => .badRequest (Channel.CommandError.message .invalidArguments)
  | .failed reason => .badRequest (Channel.CommandError.message (.failed reason))

namespace Home

/-- A device's name and state as a value. -/
def device (name : String) (state : Json) : Json :=
  Json.ofPairs [("name", .str name), ("state", state)]

/-- The home's answer: all devices, one device, or a change to one. -/
def serve (h : Home) (who : Principal) (r : ResourceRequest) :
    Home × Except ResourceError ResourceReply :=
  match r.segments with
  | ["devices"] =>
    if r.method = "GET" then (h, .ok (.json (Json.ofPairs [("devices", h.snapshot)])))
    else (h, .error .methodNotAllowed)
  | ["devices", name] =>
    if r.method = "GET" then
      match h.get? name with
      | some state => (h, .ok (.json (device name state)))
      | none => (h, .error (.notFound r.path))
    else if r.method = "PUT" then
      match Json.parse r.body with
      | .error fault => (h, .error (.badRequest fault.message))
      | .ok state =>
        match h.set who name state with
        | .ok h' => (h', .ok (.json (device name state)))
        | .error e => (h, .error (.ofCommand e))
    else (h, .error .methodNotAllowed)
  | "devices" :: _ => (h, .error .methodNotAllowed)
  | _ => (h, .error (.notFound r.path))

end Home

/-- What answers requests for resources. -/
inductive Resources
  /-- The home. -/
  | home
  /-- Nothing: no resource is known. -/
  | none
  /-- The same answer to everything. -/
  | fixed (reply : ResourceReply)
  /-- The request itself, as an object. -/
  | echo
  deriving Repr

/-- A request as an object. -/
def ResourceRequest.echo (r : ResourceRequest) (who : Principal) : Json :=
  Json.ofPairs [
    ("body_len", .nat r.body.length), ("method", .str r.method), ("path", .str r.path),
    ("principal", .arr [.str who.name, .str who.level.name]),
    ("query", match r.query with | some q => .str q | none => .null),
    ("segments", .arr (r.segments.map .str))]

/-- The answer to a request. -/
def Resources.serve (rs : Resources) (h : Home) (who : Principal) (r : ResourceRequest) :
    Home × Except ResourceError ResourceReply :=
  match rs with
  | .home => h.serve who r
  | .none => (h, .error (.notFound r.path))
  | .fixed reply => (h, .ok reply)
  | .echo => (h, .ok (.json (r.echo who)))

end DeviceGateway
