import DeviceGateway.Channel.Envelope
import DeviceGateway.Channel.Message

/-
  How a channel ends: with a close frame of the gateway's, by the peer's close, or with a broken
  connection. A reason fits into its frame: it is cut at a character, never inside one.
-/

namespace DeviceGateway.Channel

/-- Upper bound on the octets of a reason. -/
def maxReasonBytes : Nat := 123

/-- A reason as a close frame can hold it: when it is too long, it is cut at the last boundary up to
the bound. It is none if there is no boundary, or if the text may not be cut there. -/
def closeReason? (reason : String) : Option String :=
  let octets := utf8 reason
  if octets.length ≤ maxReasonBytes then some reason
  else (Utf8.lastBoundary? octets maxReasonBytes).bind (Utf8.front? reason)

/-- There always is a boundary, and there the text may be cut. -/
theorem closeReason?_isSome (reason : String) : (closeReason? reason).isSome = true := by
  unfold closeReason?
  dsimp only
  split
  · rfl
  · obtain ⟨k, hlast, -, hboundary, -⟩ := Utf8.exists_lastBoundary (utf8 reason) maxReasonBytes
    rw [hlast, Option.bind_some]
    unfold Utf8.front?
    rw [if_pos hboundary]
    rfl

/-- A close frame's code and reason. -/
structure Close where
  code : Nat
  reason : String
  deriving DecidableEq, Repr

namespace Close

/-- The close that answers a message that is refused. -/
def refused (why : String) : Close :=
  let reason := badPayload ++ ": " ++ why
  { code := 1007, reason := (closeReason? reason).get (closeReason?_isSome reason) }

/-- The close after the shutdown signal. -/
def goingAway : Close := { code := 1001, reason := "server shutting down" }

/-- The close of a session whose queue was full. -/
def overflow : Close := { code := 1008, reason := "send queue overflow" }

/-- The payload of a close frame. -/
def payload (c : Close) : Bytes := bigEndian 2 c.code ++ utf8 c.reason

end Close

/-- How the open state of a session ends. -/
inductive Exit
  | close (c : Close)
  | peerClosed
  | broken
  deriving DecidableEq, Repr

/-- The close frame that an end of the open state calls for, if it calls for one: the peer's close
is answered without a code. -/
def Exit.farewell : Exit → Option (Option Close)
  | .close c => some (some c)
  | .peerClosed => some none
  | .broken => none

/-- The end that a fault of the framing brings. -/
def FrameFault.exit (f : FrameFault) : Exit := .close (.refused f.message)

/-- The end that a refused message brings. -/
def Violation.exit (v : Violation) : Exit := .close (.refused v.message)

end DeviceGateway.Channel
