import DeviceGateway.Access.Level
import DeviceGateway.Channel.Envelope

/-
  The channel sessions of a gateway. Each has a queue of texts that wait to be written to its
  client; anybody may append to it, and only the session itself takes from it. The registry lists
  the sessions that broadcasts go to, in the order of their registration.
-/

namespace DeviceGateway.Channel

/-- How many texts may wait in one queue. -/
def outboundQueueLimit : Nat := 1024

/-- The life of a session. -/
inductive SessionState
  | accepting
  | closing
  | closed
  deriving DecidableEq, Repr, Inhabited

/-- The name of a state. -/
def SessionState.name : SessionState → String
  | accepting => "Open"
  | closing => "Closing"
  | closed => "Closed"

/-- One session: who it acts for, its state, the texts waiting in its queue, whether somebody
still takes texts from the queue, and whether somebody still holds the session. -/
structure Session where
  owner : Principal
  state : SessionState := .accepting
  queue : List String := []
  listening : Bool := true
  held : Bool := true
  deriving DecidableEq, Repr, Inhabited

namespace Session

/-- Appends a text. It is refused once the session has left its accepting state, when nobody
listens, and when the queue is full, which also moves the session to closing. -/
def send (s : Session) (text : String) : Session × Bool :=
  if s.state ≠ .accepting then (s, false)
  else if !s.listening then (s, false)
  else if outboundQueueLimit ≤ s.queue.length then ({ s with state := .closing }, false)
  else ({ s with queue := s.queue ++ [text] }, true)

/-- Takes the text that waits longest. -/
def take? (s : Session) : Option (String × Session) :=
  match s.queue with
  | [] => none
  | text :: rest => some (text, { s with queue := rest })

end Session

/-- All sessions there ever were, by number, and the registered ones. -/
structure Sessions where
  all : List Session := []
  entries : List Nat := []
  deriving Repr, Inhabited

namespace Sessions

/-- The session of a number. -/
def get? (ss : Sessions) (id : Nat) : Option Session := ss.all[id]?

/-- The sessions with one of them changed. -/
def modify (ss : Sessions) (id : Nat) (f : Session → Session) : Sessions :=
  { ss with all := ss.all.modify id f }

/-- One more session and its number; it is not registered. -/
def create (ss : Sessions) (owner : Principal) : Sessions × Nat :=
  ({ ss with all := ss.all ++ [{ owner }] }, ss.all.length)

/-- Is the session still held by anybody? -/
def isHeld (ss : Sessions) (id : Nat) : Bool := (ss.get? id).any (·.held)

/-- Adds a session to the registry. -/
def register (ss : Sessions) (id : Nat) : Sessions := { ss with entries := ss.entries ++ [id] }

/-- The registry without the sessions that nobody holds any more. -/
def prune (ss : Sessions) : Sessions := { ss with entries := ss.entries.filter ss.isHeld }

/-- Counts the registered sessions that are still held; the registry forgets the others. -/
def count (ss : Sessions) : Sessions × Nat :=
  let ss := ss.prune
  (ss, ss.entries.length)

/-- The number of registered sessions that are still held. -/
def live (ss : Sessions) : Nat := ss.count.2

/-- Sends a text to one session. -/
def send (ss : Sessions) (id : Nat) (text : String) : Sessions × Bool :=
  match ss.get? id with
  | none => (ss, false)
  | some s => let (s', accepted) := s.send text; (ss.modify id (fun _ => s'), accepted)

/-- Sends a text to sessions in turn, counting those that accept it. -/
def sendAll (text : String) (ss : Sessions) (ids : List Nat) : Sessions × Nat :=
  ids.foldl
    (fun (acc : Sessions × Nat) id =>
      let (ss', accepted) := acc.1.send id text
      (ss', if accepted then acc.2 + 1 else acc.2))
    (ss, 0)

/-- Sends a text to every registered session that is still held, and counts those that accept
it. -/
def broadcastText (ss : Sessions) (text : String) : Sessions × Nat :=
  let ss := ss.prune
  sendAll text ss ss.entries

/-- Sends an event to every registered session that is still held. -/
def broadcast (ss : Sessions) (event : Push) : Sessions × Nat := ss.broadcastText event.text

end Sessions

end DeviceGateway.Channel
