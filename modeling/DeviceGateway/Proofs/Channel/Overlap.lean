import DeviceGateway.Proofs.Channel.Step

/-
  Sends that overlap. A send looks at the state of the session, offers its text to the queue, and
  marks the session closing when the queue is full; other sends and the session's task may come in
  between. A send that nobody disturbs is `Session.send` (`run_send`), and the task's own moves are
  those of its steps (`mark_retire`, `finish_drop`). Whoever watches the state sees it accepting,
  then closing, then closed, and in one case closing again: a send that had looked while the session
  accepted has found the queue full, and marks it after its task has closed it (`observed_states`).
-/

open DeviceGateway.Stream (Pipe Poll)

namespace DeviceGateway.Channel

/-- Where a send stands. -/
inductive SendStage
  /-- About to look at the state of the session. -/
  | called
  /-- Found the session accepting; about to offer the text to the queue. -/
  | admitted
  /-- Found the queue full; about to mark the session closing. -/
  | overflowed
  | returned (accepted : Bool)
  deriving DecidableEq, Repr

/-- A send that was called. -/
structure Sender where
  text : String
  stage : SendStage := .called
  deriving DecidableEq, Repr

namespace Sender

/-- Has the send found the session accepting, and not returned yet? -/
def isInFlight (a : Sender) : Bool := a.stage = .admitted || a.stage = .overflowed

/-- One step of a send, and the session after it. -/
def step (a : Sender) (s : Session) : Sender × Session :=
  match a.stage with
  | .called =>
    ({ a with stage := if s.state = .accepting then .admitted else .returned false }, s)
  | .admitted =>
    if !s.listening then ({ a with stage := .returned false }, s)
    else if outboundQueueLimit ≤ s.queue.length then ({ a with stage := .overflowed }, s)
    else ({ a with stage := .returned true }, { s with queue := s.queue ++ [a.text] })
  | .overflowed => ({ a with stage := .returned false }, { s with state := .closing })
  | .returned _ => (a, s)

end Sender

/-- Where the task of a session stands. -/
inductive OwnerStage
  | serving
  /-- It has marked the session closing. -/
  | closing
  /-- It has marked the session closed. -/
  | closed
  /-- It has let go of the queue. -/
  | gone
  deriving DecidableEq, Repr

/-- A session, its task, and all sends to it that were called. -/
structure Race where
  session : Session
  owner : OwnerStage := .serving
  senders : List Sender := []
  deriving DecidableEq, Repr

/-- A step of somebody. -/
inductive Race.Move
  /-- A send is called. -/
  | call (text : String)
  /-- A send takes its next step. -/
  | advance (i : Nat)
  /-- The task takes the text that waits longest. -/
  | receive
  /-- The task marks the session closing. -/
  | retire
  /-- The task marks the session closed. -/
  | finish
  /-- The task lets go of the queue. -/
  | drop
  deriving DecidableEq, Repr

namespace Race

/-- The race after a move; a move whose turn it is not is none. -/
def perform (r : Race) : Move → Race
  | .call text => { r with senders := r.senders ++ [{ text }] }
  | .advance i =>
    match r.senders[i]? with
    | none => r
    | some a =>
      let (a, session) := a.step r.session
      { r with session, senders := r.senders.set i a }
  | .receive =>
    if r.owner = .serving then
      match r.session.take? with
      | some (_, session) => { r with session }
      | none => r
    else r
  | .retire =>
    if r.owner = .serving then
      { r with session := { r.session with state := .closing }, owner := .closing }
    else r
  | .finish =>
    if r.owner = .closing then
      { r with session := { r.session with state := .closed }, owner := .closed }
    else r
  | .drop =>
    if r.owner = .closed then
      { r with session := { r.session with listening := false, queue := [] }, owner := .gone }
    else r

/-- The race after moves in turn. -/
def run (r : Race) (moves : List Move) : Race := moves.foldl perform r

/-- A new session to which nobody has sent. -/
def fresh (owner : Principal) : Race := { session := { owner } }

/-- The states that somebody sees who looks after every move. -/
def observed (r : Race) : List Move → List SessionState
  | [] => [r.session.state]
  | m :: moves => r.session.state :: (r.perform m).observed moves

/-- Is a send between its look at the state and its return? -/
def InFlight (r : Race) : Prop := ∃ a ∈ r.senders, a.isInFlight = true

variable {r : Race} {m : Move}

theorem run_append (r : Race) (moves more : List Move) :
    r.run (moves ++ more) = (r.run moves).run more := List.foldl_append

/-! ## Undisturbed -/

/-- A send that nobody disturbs. -/
def undisturbed (i : Nat) (text : String) : List Move :=
  [.call text, .advance i, .advance i, .advance i]

/-- A send that nobody disturbs leaves the session, and returns, as one step would. -/
theorem run_send (r : Race) (text : String) :
    r.run (undisturbed r.senders.length text) =
      { r with
        session := (r.session.send text).1
        senders := r.senders ++ [⟨text, .returned (r.session.send text).2⟩] } := by
  have hget : ∀ a : Sender, (r.senders ++ [a])[r.senders.length]? = some a := by simp
  have hset : ∀ a b : Sender, (r.senders ++ [a]).set r.senders.length b = r.senders ++ [b] := by
    simp
  unfold run undisturbed
  simp only [List.foldl_cons, List.foldl_nil, perform, hget, hset]
  unfold Session.send
  by_cases hstate : r.session.state = .accepting
  · by_cases hlist : r.session.listening = true
    · by_cases hfull : outboundQueueLimit ≤ r.session.queue.length
      · simp [Sender.step, hstate, hlist, hfull]
      · simp [Sender.step, hstate, hlist, hfull]
    · simp [Sender.step, hstate, hlist]
  · simp [Sender.step, hstate]

/-- The task begins its shutdown by this move. -/
theorem mark_retire {h : Home} {t : Task} (hs : h.sessions.get? t.session = some r.session)
    (howner : r.owner = .serving) :
    (t.mark .closing h).sessions.get? t.session = some (r.perform .retire).session := by
  unfold perform
  dsimp only
  rw [if_pos howner]
  exact Sessions.get?_modify_self _ hs

/-- The task ends by these moves. -/
theorem finish_drop {h : Home} {p : Pipe} {t : Task} {outcome : Poll Bool}
    (hs : h.sessions.get? t.session = some r.session) (howner : r.owner = .closing) :
    (Task.finish h p t outcome).home.sessions.get? t.session =
      some (r.run [.finish, .drop]).session := by
  unfold run
  simp only [List.foldl_cons, List.foldl_nil, perform, if_pos howner, if_pos]
  exact Sessions.get?_modify_self _ hs

/-! ## One move -/

/-- A step of a send leaves the state alone, or marks the session closing. -/
theorem step_state (a : Sender) (s : Session) :
    (a.step s).2.state = s.state ∨ (a.isInFlight = true ∧ (a.step s).2.state = .closing) := by
  obtain ⟨text, stage⟩ := a
  cases stage with
  | called => exact Or.inl rfl
  | admitted =>
    refine Or.inl ?_
    unfold Sender.step
    dsimp only
    split
    · rfl
    · split <;> rfl
  | overflowed => exact Or.inr ⟨rfl, rfl⟩
  | returned accepted => exact Or.inl rfl

/-- What a move does to the state and to the place of the task. -/
theorem perform_cases (r : Race) (m : Move) :
    ((r.perform m).owner = r.owner ∧ (r.perform m).session.state = r.session.state) ∨
    ((r.perform m).owner = r.owner ∧ r.InFlight ∧ (r.perform m).session.state = .closing) ∨
    (r.owner = .serving ∧ (r.perform m).owner = .closing ∧
      (r.perform m).session.state = .closing) ∨
    (m = .finish ∧ r.owner = .closing ∧ (r.perform m).owner = .closed ∧
      (r.perform m).session.state = .closed) ∨
    (r.owner = .closed ∧ (r.perform m).owner = .gone ∧
      (r.perform m).session.state = r.session.state) := by
  cases m with
  | call text => exact Or.inl ⟨rfl, rfl⟩
  | advance i =>
    unfold perform
    dsimp only
    split
    · exact Or.inl ⟨rfl, rfl⟩
    · next a hget =>
      rcases step_state a r.session with hsame | ⟨hflight, hclosing⟩
      · exact Or.inl ⟨rfl, hsame⟩
      · exact Or.inr (Or.inl ⟨rfl, ⟨a, List.mem_of_getElem? hget, hflight⟩, hclosing⟩)
  | receive =>
    unfold perform Session.take?
    dsimp only
    split
    · cases r.session.queue <;> exact Or.inl ⟨rfl, rfl⟩
    · exact Or.inl ⟨rfl, rfl⟩
  | retire =>
    unfold perform
    dsimp only
    split
    · next howner => exact Or.inr (Or.inr (Or.inl ⟨howner, rfl, rfl⟩))
    · exact Or.inl ⟨rfl, rfl⟩
  | finish =>
    unfold perform
    dsimp only
    split
    · next howner => exact Or.inr (Or.inr (Or.inr (Or.inl ⟨rfl, howner, rfl, rfl⟩)))
    · exact Or.inl ⟨rfl, rfl⟩
  | drop =>
    unfold perform
    dsimp only
    split
    · next howner => exact Or.inr (Or.inr (Or.inr (Or.inr ⟨howner, rfl, rfl⟩)))
    · exact Or.inl ⟨rfl, rfl⟩

/-- Once the session accepts no more, no send finds that it does. -/
theorem inFlight_of_perform (hstate : r.session.state ≠ .accepting)
    (hflight : (r.perform m).InFlight) : r.InFlight := by
  obtain ⟨a, hmem, ha⟩ := hflight
  cases m with
  | call text =>
    rcases List.mem_append.mp hmem with hmem | hmem
    · exact ⟨a, hmem, ha⟩
    · rw [List.mem_singleton.mp hmem] at ha
      cases ha
  | advance i =>
    unfold perform at hmem
    dsimp only at hmem
    split at hmem
    · exact ⟨a, hmem, ha⟩
    · next b hget =>
      rcases List.mem_or_eq_of_mem_set hmem with hmem | rfl
      · exact ⟨a, hmem, ha⟩
      · refine ⟨b, List.mem_of_getElem? hget, ?_⟩
        obtain ⟨text, stage⟩ := b
        cases stage with
        | called =>
          unfold Sender.step at ha
          dsimp only at ha
          rw [if_neg hstate] at ha
          cases ha
        | admitted => rfl
        | overflowed => rfl
        | returned accepted => exact ha
  | receive =>
    unfold perform at hmem
    dsimp only at hmem
    split at hmem
    · split at hmem <;> exact ⟨a, hmem, ha⟩
    · exact ⟨a, hmem, ha⟩
  | retire | finish | drop =>
    unfold perform at hmem
    dsimp only at hmem
    split at hmem <;> exact ⟨a, hmem, ha⟩

/-! ## What is seen -/

/-- Has the task marked the session closed? -/
def IsPast (r : Race) : Prop := r.owner = .closed ∨ r.owner = .gone

/-- When the task has marked the session closed, only a send in flight changes the state. -/
theorem IsPast.perform (hr : r.IsPast) (m : Move) : (r.perform m).IsPast ∧
    ((r.perform m).session.state = r.session.state ∨
      (r.InFlight ∧ (r.perform m).session.state = .closing)) := by
  unfold IsPast at hr ⊢
  rcases perform_cases r m with ⟨howner, hstate⟩ | ⟨howner, hflight, hstate⟩ |
    ⟨hserving, _⟩ | ⟨_, hclosing, _⟩ | ⟨_, howner, hstate⟩
  · exact ⟨howner ▸ hr, Or.inl hstate⟩
  · exact ⟨howner ▸ hr, Or.inr ⟨hflight, hstate⟩⟩
  · rw [hserving] at hr
    rcases hr with hr | hr <;> cases hr
  · rw [hclosing] at hr
    rcases hr with hr | hr <;> cases hr
  · exact ⟨Or.inr howner, Or.inl hstate⟩

theorem observed_past_closing (hr : r.IsPast) (hstate : r.session.state = .closing)
    (moves : List Move) : r.observed moves = List.replicate (moves.length + 1) .closing := by
  induction moves generalizing r with
  | nil => exact congrArg (fun state => [state]) hstate
  | cons m moves ih =>
    obtain ⟨hpast, hnext⟩ := hr.perform m
    have hclosing : (r.perform m).session.state = .closing := by
      rcases hnext with hsame | ⟨_, hclosing⟩
      · exact hsame.trans hstate
      · exact hclosing
    unfold observed
    rw [ih hpast hclosing, hstate]
    rfl

theorem observed_past_closed (hr : r.IsPast) (hstate : r.session.state = .closed)
    (moves : List Move) : ∃ c d,
      r.observed moves = List.replicate (c + 1) .closed ++ List.replicate d .closing ∧
        (d ≠ 0 → r.InFlight) := by
  induction moves generalizing r with
  | nil => exact ⟨0, 0, congrArg (fun state => [state]) hstate, fun h => absurd rfl h⟩
  | cons m moves ih =>
    obtain ⟨hpast, hnext⟩ := hr.perform m
    unfold observed
    rw [hstate]
    rcases hnext with hsame | ⟨hflight, hclosing⟩
    · obtain ⟨c, d, hseen, hd⟩ := ih hpast (hsame.trans hstate)
      refine ⟨c + 1, d, by rw [hseen]; rfl, fun h => ?_⟩
      exact inFlight_of_perform (by rw [hstate]; decide) (hd h)
    · exact ⟨0, moves.length + 1, by rw [observed_past_closing hpast hclosing moves]; rfl,
        fun _ => hflight⟩

/-- Is a send in flight when the task marks the session closed? -/
def ClosesInFlight (r : Race) (moves : List Move) : Prop :=
  ∃ before after, moves = before ++ .finish :: after ∧
    (r.run before).owner = .closing ∧ (r.run before).InFlight

theorem ClosesInFlight.cons {moves : List Move} (h : (r.perform m).ClosesInFlight moves) :
    r.ClosesInFlight (m :: moves) := by
  obtain ⟨before, after, rfl, hbefore⟩ := h
  exact ⟨m :: before, after, rfl, hbefore⟩

theorem observed_closing (hr : r.owner = .serving ∨ r.owner = .closing)
    (hstate : r.session.state = .closing) (moves : List Move) : ∃ b c d,
      r.observed moves = List.replicate (b + 1) .closing ++ List.replicate c .closed ++
        List.replicate d .closing ∧ (d ≠ 0 → r.ClosesInFlight moves) := by
  induction moves generalizing r with
  | nil => exact ⟨0, 0, 0, congrArg (fun state => [state]) hstate, fun h => absurd rfl h⟩
  | cons m moves ih =>
    have hstay : ((r.perform m).owner = .serving ∨ (r.perform m).owner = .closing) →
        (r.perform m).session.state = .closing → ∃ b c d, r.observed (m :: moves) =
          List.replicate (b + 1) .closing ++ List.replicate c .closed ++
            List.replicate d .closing ∧ (d ≠ 0 → r.ClosesInFlight (m :: moves)) := by
      intro howner hclosing
      obtain ⟨b, c, d, hseen, hd⟩ := ih howner hclosing
      refine ⟨b + 1, c, d, ?_, fun h => (hd h).cons⟩
      unfold observed
      rw [hseen, hstate]
      rfl
    rcases perform_cases r m with ⟨howner, hsame⟩ | ⟨howner, _, hclosing⟩ |
      ⟨_, howner, hclosing⟩ | ⟨rfl, hbefore, howner, hclosed⟩ | ⟨hbefore, _⟩
    · exact hstay (howner ▸ hr) (hsame.trans hstate)
    · exact hstay (howner ▸ hr) hclosing
    · exact hstay (Or.inr howner) hclosing
    · obtain ⟨c, d, hseen, hd⟩ := observed_past_closed (Or.inl howner) hclosed moves
      refine ⟨0, c + 1, d, ?_, fun h => ⟨[], moves, rfl, hbefore, ?_⟩⟩
      · unfold observed
        rw [hseen, hstate]
        rfl
      · have hleft : r.session.state ≠ .accepting := by rw [hstate]; decide
        exact inFlight_of_perform hleft (hd h)
    · rw [hbefore] at hr
      rcases hr with hr | hr <;> cases hr

theorem observed_accepting (hr : r.owner = .serving) (hstate : r.session.state = .accepting)
    (moves : List Move) : ∃ a b c d,
      r.observed moves =
        List.replicate (a + 1) .accepting ++ List.replicate b .closing ++
          List.replicate c .closed ++ List.replicate d .closing ∧
        (d ≠ 0 → r.ClosesInFlight moves) := by
  induction moves generalizing r with
  | nil =>
    exact ⟨0, 0, 0, 0, congrArg (fun state => [state]) hstate, fun h => absurd rfl h⟩
  | cons m moves ih =>
    have hend : ((r.perform m).owner = .serving ∨ (r.perform m).owner = .closing) →
        (r.perform m).session.state = .closing → ∃ a b c d, r.observed (m :: moves) =
          List.replicate (a + 1) .accepting ++ List.replicate b .closing ++
            List.replicate c .closed ++ List.replicate d .closing ∧
              (d ≠ 0 → r.ClosesInFlight (m :: moves)) := by
      intro howner hclosing
      obtain ⟨b, c, d, hseen, hd⟩ := observed_closing howner hclosing moves
      refine ⟨0, b + 1, c, d, ?_, fun h => (hd h).cons⟩
      unfold observed
      rw [hseen, hstate]
      rfl
    rcases perform_cases r m with ⟨howner, hsame⟩ | ⟨howner, _, hclosing⟩ |
      ⟨_, howner, hclosing⟩ | ⟨_, hbefore, _⟩ | ⟨hbefore, _⟩
    · obtain ⟨a, b, c, d, hseen, hd⟩ := ih (howner.trans hr) (hsame.trans hstate)
      refine ⟨a + 1, b, c, d, ?_, fun h => (hd h).cons⟩
      unfold observed
      rw [hseen, hstate]
      rfl
    · exact hend (Or.inl (howner.trans hr)) hclosing
    · exact hend (Or.inr howner) hclosing
    · cases hr.symm.trans hbefore
    · cases hr.symm.trans hbefore

/-- Whoever watches the state of a session sees it accepting, then closing, then closed, however
the moves of its task and of the sends interleave; and closing again only if a send was in flight
when the task marked the session closed. -/
theorem observed_states (owner : Principal) (moves : List Move) : ∃ a b c d,
    (fresh owner).observed moves =
      List.replicate (a + 1) .accepting ++ List.replicate b .closing ++
        List.replicate c .closed ++ List.replicate d .closing ∧
      (d ≠ 0 → (fresh owner).ClosesInFlight moves) :=
  observed_accepting rfl rfl moves

/-- Sends one after another, to fill a queue. -/
def fill : Nat → List Move
  | 0 => []
  | n + 1 => fill n ++ undisturbed n "x"

theorem run_fill (owner : Principal) {n : Nat} (hn : n ≤ outboundQueueLimit) :
    (fresh owner).run (fill n) =
      { session := { owner, queue := List.replicate n "x" }
        senders := List.replicate n ⟨"x", .returned true⟩ } := by
  induction n with
  | zero => rfl
  | succ n ih =>
    have hsent := run_send ((fresh owner).run (fill n)) "x"
    rw [ih (Nat.le_of_succ_le hn)] at hsent
    rw [List.length_replicate, Session.send_of_room "x" rfl rfl
      (by rw [List.length_replicate]; exact hn)] at hsent
    unfold fill
    rw [run_append, ih (Nat.le_of_succ_le hn), hsent, List.replicate_succ', List.replicate_succ']

/-- A send looks at an accepting session whose queue is full. Before it goes on, the task closes the
session: then the send marks it closing, and so it stays. -/
theorem lateOverflow_reopens :
    let r := (fresh ⟨"eve", .control⟩).run
      (fill 1024 ++ [.call "y", .advance 1024, .retire, .finish])
    r.session.state = .closed ∧
      (r.run [.advance 1024, .advance 1024]).session.state = .closing ∧
      (r.run [.advance 1024, .advance 1024, .drop]).session.state = .closing := by
  rw [run_append, run_fill _ (Nat.le_refl 1024)]
  decide +kernel

end Race

end DeviceGateway.Channel
