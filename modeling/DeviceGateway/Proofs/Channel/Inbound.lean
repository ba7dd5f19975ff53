import DeviceGateway.Proofs.Channel.Reasons

/-
  What a client says: one list of messages, and a fault at last (`Receiver.said`), which only grows
  at its end. What counts of it are the requests up to the first item that ends the channel
  (`requests`, `ending?`).
-/

namespace DeviceGateway.Channel

/-! ## All that a client says -/

/-- Something that a client says, or that comes instead. -/
inductive Inbound
  | message (m : Message)
  | fault (f : FrameFault)
  /-- The client has hung up. -/
  | hungUp
  deriving DecidableEq, Repr

namespace Receiver

variable {r r' : Receiver} {m : Message} {fault : FrameFault}

/-- What the octets of a receiver say. -/
def saidWithin (fuel : Nat) (r : Receiver) : List Inbound :=
  match fuel with
  | 0 => []
  | n + 1 =>
    match r.message with
    | .error f => [.fault f]
    | .ok (_, none) => []
    | .ok (r', some m) => .message m :: r'.saidWithin n

/-- What the octets of a receiver say: messages, and at last a fault if there is one. -/
def said (r : Receiver) : List Inbound := r.saidWithin (r.buffer.length + 1)

theorem saidWithin_fuel {n k : Nat} (hn : r.buffer.length < n) (hk : r.buffer.length < k) :
    r.saidWithin n = r.saidWithin k := by
  induction n generalizing r k with
  | zero => omega
  | succ n ih =>
    obtain ⟨k, rfl⟩ : ∃ j, k = j + 1 := ⟨k - 1, by omega⟩
    unfold saidWithin
    split
    · rfl
    · rfl
    · next r' m hmessage =>
      have hless := (next_length hmessage).2 rfl
      have hsame : r'.saidWithin n = r'.saidWithin k := ih (by omega) (by omega)
      rw [hsame]

/-- What is said first is the next message. -/
theorem said_of_message (h : r.message = .ok (r', some m)) : r.said = .message m :: r'.said := by
  have hless := (next_length h).2 rfl
  have hrest : r'.saidWithin r.buffer.length = r'.said :=
    saidWithin_fuel hless (Nat.lt_succ_self _)
  conv => lhs; unfold said saidWithin
  rw [h, ← hrest]

theorem said_of_error (h : r.message = .error fault) : r.said = [.fault fault] := by
  unfold said saidWithin
  rw [h]

theorem said_of_none (h : r.message = .ok (r', none)) : r.said = [] := by
  unfold said saidWithin
  rw [h]

/-- Octets that make no message yet may as well be taken before more arrive. -/
theorem said_push_of_none (h : r.message = .ok (r', none)) (more : Bytes) :
    (r.push more).said = (r'.push more).said := by
  have hsame := message_none_push h more
  cases hmessage : (r'.push more).message with
  | error f => rw [said_of_error hmessage, said_of_error (hsame.trans hmessage)]
  | ok o =>
    obtain ⟨r'', m?⟩ := o
    cases m? with
    | none => rw [said_of_none hmessage, said_of_none (hsame.trans hmessage)]
    | some m => rw [said_of_message hmessage, said_of_message (hsame.trans hmessage)]

end Receiver

/-! ## What counts of it -/

/-- What an item of a client's calls for. -/
inductive Verdict
  | request (r : Request)
  | nothing
  | ends (e : Exit)

namespace Inbound

/-- What an item calls for: a text is a request or refused, a ping or a pong calls for nothing,
and all else ends the channel. -/
def verdict : Inbound → Verdict
  | .message (.text s) =>
    match Request.parse s with
    | .ok r => .request r
    | .error v => .ends v.exit
  | .message .binary => .ends (Violation.exit .nonTextFrame)
  | .message (.ping _) => .nothing
  | .message .pong => .nothing
  | .message .close => .ends .peerClosed
  | .fault f => .ends f.exit
  | .hungUp => .ends (FrameFault.exit .ended)

/-- The way in which an item ends the channel, if it does. -/
def exit? (i : Inbound) : Option Exit :=
  match i.verdict with
  | .ends e => some e
  | _ => none

theorem verdict_of_violation {text : String} {v : Violation} (h : Request.parse text = .error v) :
    (message (.text text)).verdict = .ends v.exit := by
  unfold verdict
  dsimp only
  rw [h]

/-- What ends the channel is the client's close, or is refused for what is wrong with it. -/
theorem exit_cases {i : Inbound} {e : Exit} (h : i.exit? = some e) :
    (i = .message .close ∧ e = .peerClosed) ∨ (∃ v : Violation, e = v.exit) ∨
      ∃ f : FrameFault, e = f.exit := by
  unfold exit? verdict at h
  split at h
  · next e' hverdict =>
    obtain rfl := Option.some.inj h
    split at hverdict
    · split at hverdict <;> cases hverdict
      exact Or.inr (Or.inl ⟨_, rfl⟩)
    · cases hverdict
      exact Or.inr (Or.inl ⟨_, rfl⟩)
    · cases hverdict
    · cases hverdict
    · cases hverdict
      exact Or.inl ⟨rfl, rfl⟩
    · cases hverdict
      exact Or.inr (Or.inr ⟨_, rfl⟩)
    · cases hverdict
      exact Or.inr (Or.inr ⟨_, rfl⟩)
  · cases h

/-- The requests up to the first item that ends the channel. -/
def requests : List Inbound → List Request
  | [] => []
  | i :: is =>
    match i.verdict with
    | .request r => r :: requests is
    | .nothing => requests is
    | .ends _ => []

end Inbound

end DeviceGateway.Channel
