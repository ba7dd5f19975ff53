import DeviceGateway.Http.Body
import DeviceGateway.Http.Date
import DeviceGateway.Http.Reply
import DeviceGateway.Http.Status

/-
  Replies as octets. The connection adds what belongs to it: the version, whether it is kept, the
  length of the body and the date. Some replies have no body whatever was put into them.
-/

namespace DeviceGateway.Http

/-- How a reply goes out: its octets, and whether it is the last one on its connection. -/
structure Outgoing where
  octets : Bytes
  isLast : Bool

/-- What a connection knows when it sends a reply. -/
structure Sending where
  version : Version
  /-- Is the connection to be kept? -/
  keep : Bool
  /-- The method of the request, when there was one. -/
  method : String := ""
  /-- The time in seconds. -/
  seconds : Nat

/-- A header line. -/
def headerLine (name : String) (value : Bytes) : Bytes :=
  utf8 name ++ utf8 ": " ++ value ++ utf8 "\r\n"

/-- Is the status of an interim kind? -/
def isInterim (status : Nat) : Bool := 100 ≤ status && status ≤ 199

/-- Does the method take the reply as the start of a tunnel? -/
def isTunnel (method : String) (status : Nat) : Bool :=
  method = "CONNECT" && 200 ≤ status && status ≤ 299

/-- May the reply announce a length? -/
def announcesLength (method : String) (status : Nat) : Bool :=
  !isInterim status && !isTunnel method status && status ≠ 204 && status ≠ 304

/-- Does the reply carry its body? -/
def carriesBody (method : String) (status : Nat) : Bool :=
  announcesLength method status && method ≠ "HEAD"

namespace Reply

/-- What is said about the connection. Keeping it is added to what the reply says, and closing it
takes the place of that; each version says only what is not its custom. -/
def connectionValues (r : Reply) (s : Sending) : List Bytes :=
  let said := r.headers.values "connection"
  match s.version, s.keep with
  | .http10, true => said ++ [utf8 "keep-alive"]
  | .http10, false => said
  | .http11, true => said
  | .http11, false => [utf8 "close"]

/-- Values in one list. -/
def joined : List Bytes → Bytes
  | [] => []
  | [v] => v
  | v :: vs => v ++ utf8 ", " ++ joined vs

/-- A reply without anything in it, in place of one that cannot be sent. -/
def bare (status : Nat) : Reply := { status, headers := [], body := [] }

/-- The octets of a reply whose status can be sent. -/
def encode (r : Reply) (s : Sending) : Outgoing :=
  let connection := r.connectionValues s
  let line := s.version.name ++ " " ++ toString r.status ++ " " ++ reason r.status ++ "\r\n"
  let headers := (r.headers.filter (·.name ≠ "connection")).flatMap fun h =>
    headerLine h.name h.value
  let octets := utf8 line ++ headers ++
    (if connection.isEmpty then [] else headerLine "connection" (joined connection)) ++
    (if announcesLength s.method r.status then
      headerLine "content-length" (utf8 (toString r.body.length)) else []) ++
    headerLine "date" (utf8 (date s.seconds)) ++ utf8 "\r\n" ++
    (if carriesBody s.method r.status then r.body else [])
  { octets
    isLast := r.status = 101 || isTunnel s.method r.status || !s.keep ||
      connection.any (valueHas "close") }

/-- How a reply goes out. An interim status other than 101 cannot answer a request. -/
def outgoing (r : Reply) (s : Sending) : Outgoing :=
  if isInterim r.status && r.status ≠ 101 then
    { (bare 500).encode { s with version := .http11, keep := true } with isLast := true }
  else r.encode s

/-- The reply to a head that cannot be read. -/
def refusal (status : Nat) (s : Sending) : Outgoing := (bare status).encode { s with keep := false }

end Reply

/-- The octets that let a waiting client send its body. -/
def goAhead : Bytes := utf8 "HTTP/1.1 100 Continue\r\n\r\n"

end DeviceGateway.Http
