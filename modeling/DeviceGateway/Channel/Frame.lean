import DeviceGateway.Bytes

/-
  Frames of the channel: two octets with the kind and the length, an extended length where it is
  needed, a mask on what clients send, and the payload. Reading takes one frame from the front of
  what has arrived and gives back the rest; a frame that is not all there is left where it is.
-/

namespace DeviceGateway.Channel

/-- Upper bound on a message, and on every frame of it. -/
def maxMessageBytes : Nat := 1024 * 1024

/-- What a frame carries. -/
inductive Opcode
  | continuation
  | text
  | binary
  | close
  | ping
  | pong
  deriving DecidableEq, Repr

namespace Opcode

/-- The number of an opcode. -/
def toNat : Opcode → Nat
  | continuation => 0
  | text => 1
  | binary => 2
  | close => 8
  | ping => 9
  | pong => 10

/-- The opcode of a number. -/
def ofNat? (n : Nat) : Option Opcode :=
  [continuation, text, binary, close, ping, pong].find? (·.toNat = n)

/-- Does the opcode control the channel rather than carry a message? -/
def isControl (o : Opcode) : Bool := 8 ≤ o.toNat

end Opcode

/-- Why frames cannot be read on. -/
inductive FrameFault
  | invalidOpcode (n : Nat)
  | tooLong (size : Nat)
  | reservedBits
  | unmasked
  | fragmentedControl
  | longControl
  | nothingToContinue
  | unfinished (opcode : Opcode)
  | invalidClose
  | invalidUtf8
  | ended
  deriving DecidableEq, Repr

namespace FrameFault

/-- The rule that was broken. -/
def rule : FrameFault → String
  | invalidOpcode n => "Encountered invalid opcode: " ++ toString n
  | tooLong size => "Message too long: " ++ toString size ++ " > " ++ toString maxMessageBytes
  | reservedBits => "Reserved bits are non-zero"
  | unmasked => "Received an unmasked frame from client"
  | fragmentedControl => "Fragmented control frame"
  | longControl => "Control frame too big (payload must be 125 bytes or less)"
  | nothingToContinue => "Continue frame but nothing to continue"
  | unfinished .binary => "While waiting for more fragments received: BINARY"
  | unfinished _ => "While waiting for more fragments received: TEXT"
  | invalidClose => "Invalid close sequence"
  | invalidUtf8 => "text frame is not valid UTF-8"
  | ended => "Connection reset without closing handshake"

/-- The wording of a fault. -/
def message : FrameFault → String
  | tooLong size => "Space limit exceeded: " ++ rule (.tooLong size)
  | invalidUtf8 => rule .invalidUtf8
  | f => "WebSocket protocol error: " ++ f.rule

end FrameFault

/-- The four octets that hide a payload. -/
structure Mask where
  octets : Bytes
  deriving DecidableEq, Repr

/-- Hides a payload, or shows a hidden one. -/
def Mask.apply (m : Mask) (payload : Bytes) : Bytes :=
  payload.mapIdx fun i b => b ^^^ m.octets.getD (i % 4) 0

/-- A frame, its payload shown. -/
structure Frame where
  final : Bool := true
  reserved : Bool := false
  opcode : Opcode
  masked : Bool := false
  payload : Bytes
  deriving DecidableEq, Repr

namespace Frame

/-- The first octets of a frame: flags and opcode, then the length in its shortest form. -/
def head (flags : Nat) (masked : Bool) (length : Nat) : Bytes :=
  let bit := if masked then 128 else 0
  UInt8.ofNat flags ::
    if length < 126 then [UInt8.ofNat (bit + length)]
    else if length < 65536 then UInt8.ofNat (bit + 126) :: bigEndian 2 length
    else UInt8.ofNat (bit + 127) :: bigEndian 8 length

/-- The octets of a frame. -/
def encode (flags : Nat) (mask : Option Mask) (payload : Bytes) : Bytes :=
  match mask with
  | none => head flags false payload.length ++ payload
  | some m => head flags true payload.length ++ m.octets ++ m.apply payload

/-- The octets of a whole frame that the gateway sends. -/
def outgoing (opcode : Opcode) (payload : Bytes) : Bytes :=
  encode (128 + opcode.toNat) none payload

/-- The first `n` octets and the rest, when there are as many. -/
def split? (n : Nat) (bs : Bytes) : Option (Bytes × Bytes) :=
  let front := bs.take n
  if front.length = n then some (front, bs.drop n) else none

/-- The length that a second octet announces, and what follows it. -/
def length? (second : UInt8) (bs : Bytes) : Option (Nat × Bytes) :=
  let n := second.toNat % 128
  let width := if n = 126 then 2 else if n = 127 then 8 else 0
  if width = 0 then some (n, bs)
  else (split? width bs).map fun (field, rest) => (ofBigEndian field, rest)

/-- The mask, when there is one. -/
def mask? (second : UInt8) (bs : Bytes) : Option (Option Mask × Bytes) :=
  if second < 128 then some (none, bs)
  else (split? 4 bs).map fun (octets, rest) => (some ⟨octets⟩, rest)

/-- What stands before a payload: flags, length, mask. -/
def header? (bs : Bytes) : Option (Nat × Nat × Option Mask × Bytes) :=
  match bs with
  | first :: second :: rest => do
    let (length, rest) ← length? second rest
    let (mask, rest) ← mask? second rest
    return (first.toNat, length, mask, rest)
  | _ => none

/-- Takes one frame. An opcode that does not exist and a length beyond the bound are faults as
soon as the header is there. -/
def take (bs : Bytes) : Except FrameFault (Option (Frame × Bytes)) :=
  match header? bs with
  | none => .ok none
  | some (flags, length, mask, rest) =>
    match Opcode.ofNat? (flags % 16) with
    | none => .error (.invalidOpcode (flags % 16))
    | some opcode =>
      if maxMessageBytes < length then .error (.tooLong length)
      else
        match split? length rest with
        | none => .ok none
        | some (payload, rest) =>
          let frame := {
            final := 128 ≤ flags
            reserved := flags / 16 % 8 ≠ 0
            opcode
            masked := mask.isSome
            payload := match mask with
              | some m => m.apply payload
              | none => payload }
          .ok (some (frame, rest))

end Frame

end DeviceGateway.Channel
