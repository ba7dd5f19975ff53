import DeviceGateway.Channel.Frame
import DeviceGateway.Text.Utf8

/-
  Messages from frames. A text may come in fragments, with control frames between them. Its UTF-8
  is read as the fragments arrive, so a message that cannot become valid text is refused early.
-/

namespace DeviceGateway.Channel

/-- What a client says. -/
inductive Message
  | text (s : String)
  | binary
  | ping (data : Bytes)
  | pong
  | close
  deriving DecidableEq, Repr

/-- A message under way: its size so far, and its text unless it is binary. -/
structure Fragments where
  size : Nat := 0
  text : Option Utf8.Reader
  deriving DecidableEq, Repr

namespace Fragments

/-- The message with one more payload. -/
def extend (f : Fragments) (payload : Bytes) : Except FrameFault Fragments :=
  let size := f.size + payload.length
  if maxMessageBytes < size then .error (.tooLong size)
  else
    match f.text with
    | none => .ok { f with size }
    | some reader =>
      match reader.feed payload with
      | some reader => .ok { size, text := some reader }
      | none => .error .invalidUtf8

/-- The message, all fragments being there. -/
def complete (f : Fragments) : Except FrameFault Message :=
  match f.text with
  | none => .ok .binary
  | some reader =>
    match reader.text? with
    | some s => .ok (.text s)
    | none => .error .invalidUtf8

end Fragments

/-- The reading end of a channel: the octets that have arrived and make no whole frame yet, and
the message under way. -/
structure Receiver where
  buffer : Bytes := []
  fragments : Option Fragments := none
  deriving DecidableEq, Repr

/-- Is the payload a close frame's: nothing, or a code and a reason? -/
def closePayload (payload : Bytes) : Except FrameFault Unit :=
  match payload with
  | [] => .ok ()
  | [_] => .error .invalidClose
  | _ :: _ :: reason => if (Utf8.decode? reason).isSome then .ok () else .error .invalidUtf8

/-- The message that a control frame is. -/
def controlMessage (f : Frame) : Except FrameFault Message :=
  if !f.final then .error .fragmentedControl
  else if 125 < f.payload.length then .error .longControl
  else
    match f.opcode with
    | .close => (closePayload f.payload).map fun _ => .close
    | .ping => .ok (.ping f.payload)
    | _ => .ok .pong

namespace Receiver

/-- Takes a payload to the message under way. -/
def gather (r : Receiver) (fragments : Fragments) (f : Frame) :
    Except FrameFault (Receiver × Option Message) := do
  let fragments ← fragments.extend f.payload
  if f.final then
    let message ← fragments.complete
    return ({ r with fragments := none }, some message)
  else return ({ r with fragments := some fragments }, none)

/-- Takes a frame: a control frame and a last fragment each make a message. -/
def accept (r : Receiver) (f : Frame) : Except FrameFault (Receiver × Option Message) :=
  if f.reserved then .error .reservedBits
  else if !f.masked then .error .unmasked
  else if f.opcode.isControl then (controlMessage f).map fun m => (r, some m)
  else
    match f.opcode, r.fragments with
    | .continuation, some fragments => r.gather fragments f
    | .continuation, none => .error .nothingToContinue
    | opcode, some _ => .error (.unfinished opcode)
    | .text, none => r.gather { text := some {} } f
    | _, none => r.gather { text := none } f

/-- Takes frames until they make a message, or until octets are missing. -/
def next (fuel : Nat) (r : Receiver) : Except FrameFault (Receiver × Option Message) :=
  match fuel with
  | 0 => .ok (r, none)
  | n + 1 =>
    match Frame.take r.buffer with
    | .error e => .error e
    | .ok none => .ok (r, none)
    | .ok (some (f, rest)) =>
      match accept { r with buffer := rest } f with
      | .error e => .error e
      | .ok (r, some m) => .ok (r, some m)
      | .ok (r, none) => next n r

/-- The next message, if it is all there. -/
def message (r : Receiver) : Except FrameFault (Receiver × Option Message) :=
  r.next (r.buffer.length + 1)

end Receiver

end DeviceGateway.Channel
