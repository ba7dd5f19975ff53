import DeviceGateway.Http.Headers
import DeviceGateway.Json.Printer

/-
  Replies as the gateway makes them, before the connection adds what belongs to it.
-/

namespace DeviceGateway.Http

/-- Upper bound on the request line and the header fields. -/
def maxHeadBytes : Nat := 16 * 1024

/-- Upper bound on a request body. -/
def maxBodyBytes : Nat := 1024 * 1024

/-- A reply. -/
structure Reply where
  status : Nat
  headers : Headers
  body : Bytes
  deriving DecidableEq, Repr

namespace Reply

/-- A reply with a body; a content type that is no legal value becomes the one for unknown
octets. -/
def ofBody (status : Nat) (contentType : String) (body : Bytes) : Reply :=
  let value := utf8 contentType
  { status, body,
    headers := [⟨"content-type",
      if value.all isValueOctet then value else utf8 "application/octet-stream"⟩] }

/-- A JSON reply. -/
def json (status : Nat) (value : Json) : Reply :=
  ofBody status "application/json" (utf8 value.text)

/-- A page. -/
def html (status : Nat) (body : String) : Reply :=
  ofBody status "text/html; charset=utf-8" (utf8 body)

/-- A plain text. -/
def plain (status : Nat) (body : String) : Reply :=
  ofBody status "text/plain; charset=utf-8" (utf8 body)

/-- The one reply to every request that is refused; it ends the connection. -/
def error (message : String) : Reply :=
  let r := json 400 (Json.ofPairs [("error", .str message)])
  { r with headers := r.headers ++ [⟨"connection", utf8 "close"⟩] }

/-- The reply that turns a connection into a channel. -/
def switching (acceptKey : String) : Reply :=
  let value := utf8 acceptKey
  if value.all isValueOctet then
    { status := 101, body := [],
      headers := [⟨"upgrade", utf8 "websocket"⟩, ⟨"connection", utf8 "Upgrade"⟩,
        ⟨"sec-websocket-accept", value⟩] }
  else error "invalid upgrade request"

/-- Does the reply end its connection? -/
def closes (r : Reply) : Bool := Headers.hasToken "connection" "close" r.headers

end Reply

end DeviceGateway.Http
