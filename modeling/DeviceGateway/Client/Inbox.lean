import DeviceGateway.Channel.Frame
import DeviceGateway.Http.Body
import DeviceGateway.Http.Wire

/-
  What a client makes of the octets that reach it: HTTP replies, and frames once a reply has turned
  the connection into a channel.
-/

namespace DeviceGateway.Client

open Http (Headers)

/-- Something a client has received. -/
inductive Event
  | reply (version : String) (status : Nat) (headers : Headers) (body : Bytes)
  | frame (opcode : Nat) (payload : Bytes)
  /-- So many octets at the end make nothing whole. -/
  | fragment (size : Nat)
  /-- The gateway has closed the connection. -/
  | ended
  deriving Repr

/-- The receiving end of a client. -/
structure Inbox where
  octets : Bytes := []
  /-- Has the connection become a channel? -/
  isChannel : Bool := false
  /-- The methods of the requests that wait for their replies. -/
  methods : List String := []
  isEnded : Bool := false
  deriving Repr

/-- A status line: the version, the status, and what follows. -/
def statusLine? (bs : Bytes) : Option (String × Nat × Bytes) :=
  let line := bs.takeWhile (· != 0x0D)
  match bs.drop line.length, line.take 8, (line.drop 9).take 3 with
  | _ :: 0x0A :: rest, version, status => some (asciiText version, status.foldl
      (fun n b => n * 10 + digitValue b) 0, rest)
  | _, _, _ => none

/-- A whole reply at the front of octets. -/
def reply? (method : String) (bs : Bytes) : Option (Event × Bytes) := do
  let (version, status, rest) ← statusLine? bs
  let (headers, rest) ← (Http.Head.readHeaders Http.maxHeaders rest).toOption
  let announced := ((headers.values "content-length").head?.bind Http.length?).getD 0
  let size := if Http.carriesBody method status then announced else 0
  let (body, rest) ← Channel.Frame.split? size rest
  return (.reply version status headers body, rest)

/-- A whole frame at the front of octets. -/
def frame? (bs : Bytes) : Option (Event × Bytes) := do
  let (flags, length, _, rest) ← Channel.Frame.header? bs
  let (payload, rest) ← Channel.Frame.split? length rest
  return (.frame (flags % 16) payload, rest)

namespace Inbox

/-- The next thing received, if it is whole. -/
def next? (i : Inbox) : Option (Event × Inbox) :=
  if i.isChannel then (frame? i.octets).map fun (e, octets) => (e, { i with octets })
  else
    (reply? (i.methods.headD "") i.octets).map fun (e, octets) =>
      let status := match e with
        | .reply _ status _ _ => status
        | _ => 0
      (e, { i with
        octets, isChannel := status = 101
        methods := if status = 100 then i.methods else i.methods.drop 1 })

/-- All that is whole. -/
def events (fuel : Nat) (i : Inbox) : List Event × Inbox :=
  match fuel with
  | 0 => ([], i)
  | n + 1 =>
    match i.next? with
    | none => ([], i)
    | some (e, i) => let (es, i) := events n i; (e :: es, i)

/-- Receives octets, and learns whether the connection has been closed. -/
def receive (i : Inbox) (bs : Bytes) (closed : Bool) : List Event × Inbox :=
  if i.isEnded then ([], i)
  else
    let i := { i with octets := i.octets ++ bs }
    let (es, i) := i.events (i.octets.length + 1)
    if closed then
      let rest := if i.octets.isEmpty then [] else [.fragment i.octets.length]
      (es ++ rest ++ [.ended], { i with isEnded := true })
    else (es, i)

end Inbox

end DeviceGateway.Client
