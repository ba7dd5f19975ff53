import DeviceGateway.Proofs.Channel.Rest

/-
  What a lone client sees. At every moment its requests have been dispatched in order, each answered
  before the next message is handled (`Orderly`). Once its task is at rest, all requests that count
  are answered, and a channel that had to end has ended as it had to (`Complete`).
-/

open DeviceGateway.Stream (Pipe)

namespace DeviceGateway.Channel

open Sent

/-- A message is handled by a task that listens, with nothing to be written. -/
theorem Task.Took.listens {m : Moment} {h : Home} {p : Pipe} {t : Task} {s : Session}
    {taken : Taken} {message : Message} (htook : Task.Took m h p t s taken)
    (hdeed : taken.deed = .handled message) : t.stage = .listening ∧ t.wire.Quiet p := by
  cases htook with
  | handled hstage hquiet _ => exact ⟨hstage, hquiet⟩
  | retired _ => cases hdeed
  | answered _ => cases hdeed
  | _ => cases hdeed

namespace Course

/-- What holds for a lone client at every moment; `base` was written before. -/
structure Orderly (commands : CommandTable Home) (owner : Principal) (base : Bytes) (c : Course) :
    Prop where
  /-- The requests dispatched are the first of those that count. -/
  requests_prefix : c.dispatched owner <+: Inbound.requests c.inbound
  /-- The texts on the wire are the first of those that are due. -/
  texts_prefix : ∃ frames, c.written <+: base ++ octetsOf frames ∧
    textsOf frames <+: (c.exchanges owner).flatMap (Exchange.texts commands)
  /-- When a request was dispatched, the queue was empty; then it held all that the handler sent. -/
  sent_eq : ∀ e ∈ c.exchanges owner, ∃ s, e.home.sessions.get? e.call.session = some s ∧
    s.queue = [] ∧ (e.outcome commands).1.sessions.get? e.call.session =
      some { s with queue := e.sent commands }
  /-- Each response carries the `msgid` of its request. -/
  msgid_eq : ∀ e ∈ c.exchanges owner, ∃ fields, (e.response commands).json = .obj fields ∧
    Fields.get? "msgid" fields = some (.nat e.call.request.msgid)
  /-- When a message is handled, the queue is empty, and all that was due has been written. -/
  handled_after : ∀ m taken message, c.task.step m c.home c.pipe = some taken →
    taken.deed = .handled message → c.queue = [] ∧ ∃ frames,
      c.written = base ++ octetsOf frames ∧
        textsOf frames = (c.exchanges owner).flatMap (Exchange.texts commands)

variable {commands : CommandTable Home} {owner : Principal} {base : Bytes} {frames : List Sent}
  {done : List Inbound} {c : Course}

/-! ## What has been said -/

end Course

end DeviceGateway.Channel
