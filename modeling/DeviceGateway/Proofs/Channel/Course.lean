import DeviceGateway.Proofs.Channel.Step

/-
  The course of a session: its task, and all that happens around it. Other tasks send to the session
  and act elsewhere in the home, the client sends and reads, the connection fails or stalls, and the
  task takes its steps, in any order. A course also keeps what no part of the gateway keeps: what
  the client has sent and received, which texts the session has accepted, and what the task has
  done.
-/

open DeviceGateway.Stream (Pipe Faults)

namespace DeviceGateway.Channel

/-- A session's task with its surroundings, and what has come to pass. -/
structure Course where
  home : Home
  pipe : Pipe
  task : Task
  /-- The octets that the client has sent. -/
  heard : Bytes
  /-- The octets that the client has received. -/
  received : Bytes := []
  /-- The texts for which a send to the session has returned true. -/
  accepted : List String := []
  /-- What each step of the task was, with the home that it found. -/
  deeds : List (Home × Deed) := []

/-- Something that happens. -/
inductive Happening
  /-- Another task sends a text to the session. -/
  | send (text : String)
  /-- Another task acts elsewhere, and leaves the home so. -/
  | elsewhere (h : Home)
  /-- The client sends octets. -/
  | octets (bs : Bytes)
  /-- The client takes what was written. -/
  | receive
  /-- The connection gets more or less room, other faults, or is hung up on. -/
  | network (room : Option Nat) (faults : Faults) (gone ended : Bool)
  /-- The task takes a step, if it can. -/
  | step (m : Moment)

namespace Course

/-- The session of the task. -/
def session? (c : Course) : Option Session := c.home.sessions.get? c.task.session

/-- The texts that wait in the queue of a session. -/
def queueOf (h : Home) (id : Nat) : List String :=
  match h.sessions.get? id with
  | some s => s.queue
  | none => []

/-- The texts that wait in the session's queue. -/
def queue (c : Course) : List String := queueOf c.home c.task.session

/-- The texts that the session accepts in a step of its own task: what a handler adds to its
queue, and the answer. -/
def gained (c : Course) (taken : Taken) : List String :=
  match taken.deed with
  | .handled _ => (queueOf taken.home c.task.session).drop c.queue.length
  | .answered text true => [text]
  | _ => []

/-- The course after a step of the task. -/
def after (c : Course) (taken : Taken) : Course :=
  { c with
    home := taken.home, pipe := taken.pipe, task := taken.task
    accepted := c.accepted ++ c.gained taken
    deeds := c.deeds ++ [(c.home, taken.deed)] }

/-- The course when something has happened. Nobody else touches the session's own record; a client
that has hung up sends nothing more. -/
def perform (c : Course) : Happening → Course
  | .send text =>
    let (sessions, accepted) := c.home.sessions.send c.task.session text
    { c with
      home := { c.home with sessions }
      accepted := c.accepted ++ if accepted then [text] else [] }
  | .elsewhere h =>
    if h.sessions.get? c.task.session = c.home.sessions.get? c.task.session then
      { c with home := h }
    else c
  | .octets bs =>
    if c.pipe.ended then c else { c with pipe := c.pipe.send bs, heard := c.heard ++ bs }
  | .receive =>
    let (pipe, bs) := c.pipe.take
    { c with pipe, received := c.received ++ bs }
  | .network room faults gone ended =>
    { c with pipe := { c.pipe with room, faults, gone, ended := c.pipe.ended || ended } }
  | .step m =>
    match c.task.step m c.home c.pipe with
    | none => c
    | some taken => c.after taken

/-- The course when things have happened one after another. -/
def run (c : Course) (happenings : List Happening) : Course := happenings.foldl perform c

/-- A session that was just accepted, before its task has done anything. -/
def start (h : Home) (p : Pipe) (leftover : Bytes) (owner : Principal) : Course :=
  let (home, task) := Task.accept h leftover owner
  { home, pipe := p, task, heard := leftover ++ p.incoming }

/-- All octets written to the client so far. -/
def written (c : Course) : Bytes := c.received ++ c.pipe.written

/-- The texts that the task has handed to the framing, in order. -/
def wroteOf (deeds : List (Home × Deed)) : List String :=
  deeds.filterMap fun d =>
    match d.2 with
    | .wrote text => some text
    | _ => none

/-- The texts that the task has handed to the framing, in order. -/
def wrote (c : Course) : List String := wroteOf c.deeds

/-! ## Runs -/

theorem run_append (c : Course) (hs more : List Happening) :
    c.run (hs ++ more) = (c.run hs).run more := List.foldl_append

/-- What every happening of a kind keeps, a run of that kind keeps. -/
theorem run_invariant {P : Course → Prop} {Q : Happening → Prop}
    (hkeep : ∀ c a, P c → Q a → P (c.perform a)) {c : Course} (hc : P c) :
    ∀ happenings : List Happening, (∀ a ∈ happenings, Q a) → P (c.run happenings)
  | [], _ => hc
  | a :: hs, hall =>
    run_invariant hkeep (hkeep c a hc (hall a List.mem_cons_self)) hs
      fun b hb => hall b (List.mem_cons_of_mem a hb)

theorem start_session (h : Home) (p : Pipe) (leftover : Bytes) (owner : Principal) :
    (start h p leftover owner).session? = some { owner } :=
  Sessions.get?_create_self h.sessions owner

theorem queueOf_of_get? {h : Home} {id : Nat} {s : Session} (hs : h.sessions.get? id = some s) :
    queueOf h id = s.queue := by
  unfold queueOf
  rw [hs]

theorem wroteOf_append (ds es : List (Home × Deed)) :
    wroteOf (ds ++ es) = wroteOf ds ++ wroteOf es :=
  List.filterMap_append

theorem wrote_after (c : Course) (taken : Taken) :
    (c.after taken).wrote = c.wrote ++ wroteOf [(c.home, taken.deed)] :=
  wroteOf_append c.deeds [(c.home, taken.deed)]

theorem perform_step {c : Course} {m : Moment} {taken : Taken}
    (hstep : c.task.step m c.home c.pipe = some taken) :
    c.perform (.step m) = c.after taken := by
  unfold perform
  dsimp only
  rw [hstep]

/-- Did nothing of the session, of its task or of what they did change? -/
structure Unmoved (c c' : Course) : Prop where
  task_eq : c'.task = c.task
  session_eq : c'.session? = c.session?
  accepted_eq : c'.accepted = c.accepted
  deeds_eq : c'.deeds = c.deeds

/-- What a happening comes to for the session: a step of its task, a text that is sent to it, or
nothing. -/
inductive Performed (c : Course) : Happening → Course → Prop
  | stepped {m : Moment} {s : Session} {taken : Taken} {c' : Course} (hs : c.session? = some s)
      (hstep : c.task.step m c.home c.pipe = some taken)
      (htook : c.task.Took m c.home c.pipe s taken) (hafter : c' = c.after taken) :
      Performed c (.step m) c'
  | sent {s : Session} {text : String} {c' : Course} (hs : c.session? = some s)
      (hsent : c'.session? = some (s.send text).1) (htask : c'.task = c.task)
      (haccepted : c'.accepted = c.accepted ++ if (s.send text).2 then [text] else [])
      (hdeeds : c'.deeds = c.deeds) : Performed c (.send text) c'
  | aside {a : Happening} {c' : Course} (hsame : c.Unmoved c') : Performed c a c'

theorem performed (c : Course) (a : Happening) : c.Performed a (c.perform a) := by
  have hsame : c.Unmoved c := ⟨rfl, rfl, rfl, rfl⟩
  cases a with
  | send text =>
    cases hs : c.session? with
    | none =>
      have hsend : c.home.sessions.send c.task.session text = (c.home.sessions, false) :=
        Sessions.send_of_none text hs
      unfold perform
      dsimp only
      rw [hsend]
      exact .aside ⟨rfl, rfl, List.append_nil _, rfl⟩
    | some s =>
      have hget := Sessions.get?_modify_self (fun _ => (s.send text).1) hs
      unfold perform
      dsimp only
      rw [Sessions.send_of_get? text hs]
      exact .sent hs hget rfl rfl rfl
  | elsewhere h =>
    unfold perform
    dsimp only
    split
    · next hsession => exact .aside ⟨rfl, hsession, rfl, rfl⟩
    · exact .aside hsame
  | octets bs =>
    unfold perform
    dsimp only
    split
    · exact .aside hsame
    · exact .aside ⟨rfl, rfl, rfl, rfl⟩
  | receive | network room faults gone ended => exact .aside ⟨rfl, rfl, rfl, rfl⟩
  | step m =>
    cases hstep : c.task.step m c.home c.pipe with
    | none =>
      unfold perform
      dsimp only
      rw [hstep]
      exact .aside hsame
    | some taken =>
      obtain ⟨s, hs⟩ := Task.exists_session_of_step hstep
      exact .stepped hs hstep (Task.step_took hs hstep) (perform_step hstep)

/-- What happens is a step of the task, or leaves the task and its deeds alone. -/
theorem perform_cases (c : Course) (a : Happening) :
    ((c.perform a).task = c.task ∧ (c.perform a).deeds = c.deeds) ∨
    ∃ m s taken, a = .step m ∧ c.session? = some s ∧ c.task.Took m c.home c.pipe s taken ∧
      c.perform a = c.after taken := by
  cases c.performed a with
  | stepped hs _ htook hafter => exact Or.inr ⟨_, _, _, rfl, hs, htook, hafter⟩
  | sent _ _ htask _ hdeeds => exact Or.inl ⟨htask, hdeeds⟩
  | aside hsame => exact Or.inl ⟨hsame.task_eq, hsame.deeds_eq⟩

/-- To a session that accepts no more, nothing comes but steps of its task. -/
theorem perform_of_refusing {c : Course} {s : Session} (hs : c.session? = some s)
    (hstate : s.state ≠ .accepting) (a : Happening) :
    c.Unmoved (c.perform a) ∨ ∃ m taken, a = .step m ∧ c.task.Took m c.home c.pipe s taken ∧
      c.perform a = c.after taken := by
  cases c.performed a with
  | stepped hs' _ htook hafter =>
    cases hs'.symm.trans hs
    exact Or.inr ⟨_, _, rfl, htook, hafter⟩
  | @sent s' text _ hs' hsent htask haccepted hdeeds =>
    cases hs'.symm.trans hs
    rw [Session.send_of_refusing text hstate] at hsent haccepted
    exact Or.inl ⟨htask, hsent.trans hs.symm, haccepted.trans (List.append_nil _), hdeeds⟩
  | aside hsame => exact Or.inl hsame

end Course

end DeviceGateway.Channel
