import DeviceGateway.Http.Head
import DeviceGateway.Text.Blank

/-
  Request bodies: how a head says where its body ends, and taking a body from the octets that have
  arrived, a portion at a time. A body has a length, or it comes in chunks, each with its length
  in front; behind the last chunk there may be trailing fields.
-/

namespace DeviceGateway.Http

/-! ## Chunks -/

/-- Where a reader of chunks stands. -/
inductive Place
  | start
  | size
  | sizeBlank
  | extension
  | sizeEnd
  | data
  | dataReturn
  | dataFeed
  | trailer
  | trailerFeed
  | endReturn
  | endFeed
  | ended
  deriving DecidableEq, Repr

/-- How long the extensions of all chunks, or the trailing fields, may be together. -/
def maxChunkExtra : Nat := 16 * 1024

/-- A reader of chunks: its place, the octets left of the current chunk, how many octets of
extensions there were, and the trailing fields so far, latest octet first. -/
structure Chunks where
  place : Place := .start
  left : Nat := 0
  extensions : Nat := 0
  trailers : Option Bytes := none
  fields : Nat := 0
  deriving DecidableEq, Repr

namespace Chunks

/-- The reader with one more digit of a size. -/
def digit (c : Chunks) (d : Nat) : Option Chunks :=
  let left := c.left * 16 + d
  if left < 0x10000000000000000 then some { c with place := .size, left } else none

/-- The reader with one more octet of the trailing fields. -/
def keep (c : Chunks) (b : UInt8) (place : Place) : Option Chunks :=
  let kept := c.trailers.getD []
  if kept.length + 1 < maxChunkExtra then some { c with trailers := some (b :: kept), place }
  else none

/-- What may follow the digits of a size. -/
def afterSize (c : Chunks) (b : UInt8) : Option Chunks :=
  if b == 0x20 || b == 0x09 then some { c with place := .sizeBlank }
  else if b == 0x3B then some { c with place := .extension }
  else if b == 0x0D then some { c with place := .sizeEnd }
  else none

/-- One octet outside the data of a chunk, or none where it cannot stand. -/
def push (c : Chunks) (b : UInt8) : Option Chunks :=
  match c.place with
  | .start => (hexValue? b).bind { c with left := 0 }.digit
  | .size =>
    match hexValue? b with
    | some d => c.digit d
    | none => c.afterSize b
  | .sizeBlank => c.afterSize b
  | .extension =>
    if b == 0x0D then some { c with place := .sizeEnd }
    else if b == 0x0A || maxChunkExtra ≤ c.extensions + 1 then none
    else some { c with extensions := c.extensions + 1 }
  | .sizeEnd =>
    if b != 0x0A then none
    else some { c with place := if c.left = 0 then .endReturn else .data }
  | .dataReturn => if b == 0x0D then some { c with place := .dataFeed } else none
  | .dataFeed => if b == 0x0A then some { c with place := .start } else none
  | .trailer => c.keep b (if b == 0x0D then .trailerFeed else .trailer)
  | .trailerFeed =>
    if b != 0x0A || maxHeaders ≤ c.fields then none
    else { c with fields := c.fields + 1 }.keep b .endReturn
  | .endReturn =>
    if b == 0x0D then
      if c.trailers.isSome then c.keep b .endFeed else some { c with place := .endFeed }
    else c.keep b .trailer
  | .endFeed =>
    if b != 0x0A then none
    else if c.trailers.isSome then c.keep b .ended else some { c with place := .ended }
  | .data => none
  | .ended => none

/-- Are the trailing fields in order? -/
def trailersFit (c : Chunks) : Bool :=
  match c.trailers with
  | none => true
  | some kept => (Head.readHeaders c.fields kept.reverse).isOk

end Chunks

/-! ## Portions -/

/-- What is still to come of a body. -/
inductive Body
  | sized (left : Nat)
  | chunked (chunks : Chunks)
  deriving DecidableEq, Repr

/-- What taking a portion gives. -/
inductive Portion
  | data (bs : Bytes)
  /-- The body is at its end. -/
  | ended
  /-- More octets have to arrive. -/
  | wanting
  /-- The body is malformed. -/
  | broken
  deriving DecidableEq, Repr

namespace Body

/-- Takes a portion of chunks. -/
def takeChunk (c : Chunks) : Bytes → Body × Bytes × Portion
  | [] => (.chunked c, [], .wanting)
  | b :: bs =>
    if c.place = .data then
      let data := (b :: bs).take c.left
      let left := c.left - data.length
      (.chunked { c with left, place := if left = 0 then .dataReturn else .data },
        (b :: bs).drop c.left, .data data)
    else
      match c.push b with
      | none => (.chunked c, bs, .broken)
      | some c =>
        if c.place = .ended then
          (.chunked c, bs,
            if c.trailersFit then .ended else .broken)
        else takeChunk c bs

/-- Takes a portion from the front of octets, and gives back the rest. -/
def take (b : Body) (bs : Bytes) : Body × Bytes × Portion :=
  match b with
  | .sized left =>
    if left = 0 then (b, bs, .ended)
    else if bs.isEmpty then (b, bs, .wanting)
    else
      let data := bs.take left
      (.sized (left - data.length), bs.drop left, .data data)
  | .chunked c => takeChunk c bs

/-- Is nothing more to come? -/
def isOver : Body → Bool
  | .sized left => left = 0
  | .chunked c => c.place = .ended

end Body

/-! ## What a head says -/

/-- What a head says about its body and about the connection. -/
structure Terms where
  body : Body := .sized 0
  /-- The client wants the connection kept. -/
  keepAlive : Bool
  /-- The client waits for a go-ahead before it sends the body. -/
  awaitsGoAhead : Bool := false
  /-- The client asks for another protocol. -/
  asksUpgrade : Bool := false
  deriving DecidableEq, Repr

/-- What has been gathered from the fields so far. -/
structure Gathered where
  /-- The client wants the connection kept, or its version of the protocol does. -/
  keepAlive : Bool
  /-- The connection has to be closed whatever else is said. -/
  closes : Bool := false
  length : Option Nat := none
  chunked : Option Bool := none
  awaitsGoAhead : Bool := false
  asksUpgrade : Bool := false

/-- The number that decimal digits write, within 64 bits. -/
def length? (value : Bytes) : Option Nat :=
  if value.isEmpty || !value.all isDigitOctet then none
  else
    let n := value.foldl (fun n b => n * 10 + digitValue b) 0
    if n < 0x10000000000000000 then some n else none

/-- Is the last encoding of a list the chunked one? -/
def endsChunked (value : Bytes) : Bool :=
  match plainText? value with
  | some s =>
    match (Text.splitOn ',' s.toList).getLast? with
    | some last => Text.sameIgnoringCase (Text.trim last) "chunked".toList
    | none => false
  | none => false

/-- Is the token in a value? -/
def valueHas (token : String) (value : Bytes) : Bool :=
  (plainText? value).any (Headers.listHas token)

/-- The longest body that can be announced. -/
def maxAnnounced : Nat := 0x10000000000000000 - 3

/-- One more field. Encodings win over lengths, but a head with both closes the connection; two
different lengths are a fault. -/
def Gathered.push (version : Version) (g : Gathered) (h : Header) : Except Unread Gathered :=
  match h.name with
  | "transfer-encoding" =>
    if version = .http10 then .error .malformed
    else
      .ok { g with chunked := some (endsChunked h.value), closes := g.closes || g.length.isSome }
  | "content-length" =>
    if g.chunked.isSome then .ok { g with closes := true }
    else
      match length? h.value, g.length with
      | none, _ => .error .malformed
      | some n, some m => if n = m then .ok g else .error .malformed
      | some n, none =>
        if maxAnnounced < n then .error .tooLarge else .ok { g with length := some n }
  | "connection" =>
    .ok { g with
      keepAlive := g.keepAlive || valueHas "keep-alive" h.value
      closes := g.closes || valueHas "close" h.value }
  | "expect" =>
    .ok { g with
      awaitsGoAhead := Text.sameIgnoringCase (asciiText h.value).toList "100-continue".toList }
  | "upgrade" => .ok { g with asksUpgrade := version = .http11 }
  | _ => .ok g

/-- The terms of a head. -/
def Head.terms (h : Head) : Except Unread Terms := do
  let start : Gathered :=
    { keepAlive := h.version = .http11, asksUpgrade := h.method = "CONNECT" }
  let g ← h.headers.foldlM (Gathered.push h.version) start
  let body ← match g.chunked, g.length with
    | some true, _ => pure (Body.chunked {})
    | some false, _ => throw .malformed
    | none, some n => pure (.sized n)
    | none, none => pure (.sized 0)
  return {
    body
    keepAlive := g.keepAlive && !g.closes
    awaitsGoAhead := g.awaitsGoAhead && !body.isOver && h.version = .http11
    asksUpgrade := g.asksUpgrade }

end DeviceGateway.Http
