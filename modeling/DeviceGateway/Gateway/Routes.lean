import DeviceGateway.Access.Authorization
import DeviceGateway.Gateway.Basic
import DeviceGateway.Hash.Sha1
import DeviceGateway.Http.Head
import DeviceGateway.Http.Reply

/-
  What a gateway answers to a request, by the start of its path. Resources, tokens and channels
  take an authenticated client; whatever is wrong with its credentials, the answer is the same.
-/

namespace DeviceGateway

open Http (Head Reply)

/-- The wording for every failed authentication. -/
def authFailed : String := "authentication failed"

/-- The body in place of an empty one. -/
def emptyBodyFiller : String := "\x7b\x7d"

/-- The page for paths that lead nowhere. -/
def notFoundPage : String :=
  "<!DOCTYPE html>\n<html><head><title>404 Not Found</title></head>" ++
  "<body><h1>404 Not Found</h1><p>The requested resource does not exist.</p></body></html>\n"

/-- The constant that a channel's key is hashed with. -/
def channelSalt : String := "258EAFA5-E914-47DA-95CA-C5AB0DC85B11"

/-- The key that accepts a channel. -/
def acceptKey (key : String) : String :=
  asciiText (Base64.encode (Hash.sha1 (utf8 (key ++ channelSalt))))

/-- Where a path leads. -/
inductive Route
  | resource
  | token
  | channel
  | ping
  | help
  | asset
  deriving DecidableEq, Repr

/-- The route of a path: the first start that fits. -/
def Route.ofPath (path : String) : Route :=
  let starts (s : String) : Bool := s.toList.isPrefixOf path.toList
  if path = "/res" || starts "/res/" then .resource
  else if starts "/auth" then .token
  else if starts "/ws" then .channel
  else if starts "/ping" then .ping
  else if starts "/help" then .help
  else .asset

/-- What a head leads to. -/
inductive Routed
  /-- A reply, whatever the body is. -/
  | reply (r : Reply)
  /-- A resource, once the body has been read. -/
  | resource (owner : Principal)
  /-- A reply, and a channel after it. -/
  | channel (owner : Principal) (r : Reply)
  deriving Repr

namespace Gateway

/-- The principal of a head. Of several headers the first counts, and only as plain text. -/
def authenticate (g : Gateway) (now : Nat) (h : Head) : Gateway × Option Principal :=
  let (credentials, answer) := g.credentials.authorize now (h.headers.text? "authorization")
  ({ g with credentials }, answer.toOption)

/-- A new token for a principal. -/
def issueToken (g : Gateway) (now : Nat) (owner : Principal) : Gateway × Reply :=
  if g.issuesTokens then
    let text := g.tokenText g.made
    ({ g with credentials := g.credentials.issue now owner text, made := g.made + 1 },
      .json 200 (Json.ofPairs [("token", .str text)]))
  else (g, .error authFailed)

/-- A static file, or the page for paths that lead nowhere. -/
def asset (g : Gateway) (h : Head) : Reply :=
  let found := if h.method = "GET" then Files.asset? g.files g.wwwRoot h.path else none
  match found with
  | some a => .ofBody 200 a.contentType a.body
  | none => .html 404 notFoundPage

/-- What a head leads to. -/
def route (g : Gateway) (now : Nat) (h : Head) : Gateway × Routed :=
  match Route.ofPath h.path with
  | .resource =>
    match g.authenticate now h with
    | (g, none) => (g, .reply (.error authFailed))
    | (g, some owner) => (g, .resource owner)
  | .token =>
    match g.authenticate now h with
    | (g, none) => (g, .reply (.error authFailed))
    | (g, some owner) => let (g, r) := g.issueToken now owner; (g, .reply r)
  | .channel =>
    match Http.channelKey? h.method h.headers with
    | none => (g, .reply (.error "invalid upgrade request"))
    | some key =>
      match g.authenticate now h with
      | (g, none) => (g, .reply (.error authFailed))
      | (g, some owner) => (g, .channel owner (.switching (acceptKey key)))
  | .ping => (g, .reply (.json 200 (Json.ofPairs [("pong", .bool true)])))
  | .help => let (g, text) := g.help; (g, .reply (.plain 200 text))
  | .asset => (g, .reply (g.asset h))

/-- The request for a resource that a head and a body make. -/
def resourceRequest (h : Head) (body : Bytes) : ResourceRequest :=
  let path := (Text.after? "/res".toList h.path.toList).getD h.path.toList
  { method := h.method.toUpper
    path := String.ofList (path.dropWhile (· = '/'))
    query := h.query, body }

/-- The reply to a request for a resource. -/
def serveResource (g : Gateway) (owner : Principal) (h : Head) (body : Bytes) : Gateway × Reply :=
  let (home, answer) := g.resources.serve g.home owner (resourceRequest h body)
  ({ g with home },
    match answer with
    | .error e => .error e.message
    | .ok r =>
      let status := if 100 ≤ r.status && r.status ≤ 999 then r.status else 500
      if r.body.isEmpty then .ofBody status "application/json" (utf8 emptyBodyFiller)
      else .ofBody status r.contentType r.body)

end Gateway

end DeviceGateway
