import DeviceGateway.Proofs.Channel.Course
import DeviceGateway.Proofs.Channel.Inbound
import DeviceGateway.Proofs.Json.Fields

/-
  Exchanges. An exchange is a request of the session's client together with the home that it was
  dispatched in; this settles which texts are due for it: those that its handler sends to the
  session, then the one response, which carries the request's `msgid` whatever the handler did.
-/

namespace DeviceGateway.Channel

/-! ## Responses -/

/-- A request that is dispatched, and the home at that moment. -/
structure Exchange where
  home : Home
  call : Call

namespace Exchange

open Course

/-- What the commands make of the home, and their response. -/
def outcome (commands : CommandTable Home) (e : Exchange) : Home × Response :=
  commands.dispatch e.call e.home

/-- The response. -/
def response (commands : CommandTable Home) (e : Exchange) : Response := (e.outcome commands).2

/-- The texts that the handler adds to the queue of the session. -/
def sent (commands : CommandTable Home) (e : Exchange) : List String :=
  (queueOf (e.outcome commands).1 e.call.session).drop
    (queueOf e.home e.call.session).length

/-- The texts that are due for the request. -/
def texts (commands : CommandTable Home) (e : Exchange) : List String :=
  e.sent commands ++ [(e.response commands).text]

/-- Does the handler send fewer texts to the session than its queue holds? -/
def Frugal (commands : CommandTable Home) (e : Exchange) : Prop :=
  ∃ s texts, e.home.sessions.get? e.call.session = some s ∧
    (e.outcome commands).1.sessions.get? e.call.session = some (s.sendAll texts).1 ∧
      texts.length < outboundQueueLimit

/-- Is the request dispatched while the session is open and nothing waits in its queue? -/
def Clear (e : Exchange) : Prop :=
  ∃ s, e.home.sessions.get? e.call.session = some s ∧ s.state = .accepting ∧
    s.listening = true ∧ s.queue = []

variable {commands : CommandTable Home} {e : Exchange} {s : Session}

/-- When the queue is empty, all that a frugal handler sends goes there, and nothing else. -/
theorem Frugal.outcome_session (h : e.Frugal commands)
    (hs : e.home.sessions.get? e.call.session = some s) (hstate : s.state = .accepting)
    (hlist : s.listening = true) (hqueue : s.queue = []) :
    (e.outcome commands).1.sessions.get? e.call.session =
      some { s with queue := e.sent commands } ∧
        (e.sent commands).length < outboundQueueLimit := by
  obtain ⟨s', texts, hs', hafter, hlength⟩ := h
  cases hs.symm.trans hs'
  have hroom : (s.sendAll texts).1.queue.length < outboundQueueLimit := by
    have hle := (Session.sendAll_sublist s texts).length_le
    rw [Session.sendAll_queue, hqueue, List.nil_append]
    omega
  rw [Session.sendAll_of_room hstate hlist hroom, hqueue, List.nil_append] at hafter
  have hsent : e.sent commands = texts := by
    unfold sent
    rw [queueOf_of_get? hafter, queueOf_of_get? hs, hqueue]
    rfl
  rw [hsent]
  exact ⟨hafter, hlength⟩

end Exchange

namespace Course

/-- The exchanges among the deeds of a task whose session `id` acts for `owner`. -/
def exchangesOf (owner : Principal) (id : Nat) (deeds : List (Home × Deed)) : List Exchange :=
  deeds.filterMap fun d =>
    match d.2 with
    | .handled (.text text) =>
      match Request.parse text with
      | .ok request => some { home := d.1, call := { owner, request, session := id } }
      | .error _ => none
    | _ => none

/-- The exchanges of a session that acts for `owner`, in order. -/
def exchanges (owner : Principal) (c : Course) : List Exchange :=
  exchangesOf owner c.task.session c.deeds

/-- The requests that were dispatched, in order. -/
def dispatched (owner : Principal) (c : Course) : List Request :=
  (c.exchanges owner).map (·.call.request)

theorem exchanges_after (owner : Principal) (c : Course) {taken : Taken}
    (hid : taken.task.session = c.task.session) :
    (c.after taken).exchanges owner =
      c.exchanges owner ++ exchangesOf owner c.task.session [(c.home, taken.deed)] := by
  show exchangesOf owner taken.task.session (c.deeds ++ [(c.home, taken.deed)]) = _
  rw [hid]
  exact List.filterMap_append

/-- A request that is handled makes one exchange. -/
theorem exchangesOf_request (owner : Principal) (id : Nat) (h : Home) {text : String}
    {request : Request} (hparse : Request.parse text = .ok request) :
    exchangesOf owner id [(h, .handled (.text text))] =
      [{ home := h, call := { owner, request, session := id } }] := by
  unfold exchangesOf
  rw [List.filterMap_cons]
  dsimp only
  rw [hparse]
  rfl

/-- All that the client has said. -/
def inbound (c : Course) : List Inbound :=
  ({ buffer := c.heard } : Receiver).said ++ if c.pipe.ended then [.hungUp] else []

end Course

end DeviceGateway.Channel
