import DeviceGateway.Proofs.Channel.Lone
import DeviceGateway.Proofs.Channel.Owners
import DeviceGateway.Proofs.Home.Acts

/-
  A home whose sessions take turns. A session handles a message in two moves: the command runs and
  leaves its answer at hand, and then the answer goes to the session's own queue; anybody else may
  come in between. A change to a device is one move with its announcement. Every move is an act on
  the home, or none (`step_home`), and whatever a session's task does is moves of that session
  (`Task.step_moves`).
-/

open DeviceGateway.Channel
open DeviceGateway.Stream (Pipe)

namespace DeviceGateway.Home

/-- A home, with the answers that sessions have at hand. -/
structure Hall where
  home : Home
  answers : Nat → Option Response := fun _ => none

/-- Something that a session or somebody else does. -/
inductive Move
  | create (owner : Principal)
  | register (id : Nat)
  | touch (id : Nat) (t : Touch)
  /-- A session hands a message of its client to the commands. -/
  | dispatch (id : Nat) (text : String)
  /-- A session puts the answer at hand into its queue. -/
  | enqueue (id : Nat)
  | resource (who : Principal) (r : ResourceRequest)
  | set (who : Principal) (name : String) (state : Json)

/-- What a move gives to whom it is made for. -/
inductive Note
  | answer (id : Nat) (r : Response)
  /-- The message is no request. -/
  | violation (id : Nat) (v : Violation)
  | served (reply : Except ResourceError ResourceReply)
  | changed
  | refused (e : CommandError)
  /-- The client of a session receives a text. -/
  | received (id : Nat) (text : String)

namespace Hall

/-- The hall with another answer at hand of one session. -/
def withAnswer (w : Hall) (id : Nat) (r : Option Response) : Hall :=
  { w with answers := fun j => if j = id then r else w.answers j }

/-- A session that looks for a message: one with an answer at hand does not. -/
def reader? (w : Hall) (id : Nat) : Option Session :=
  if (w.answers id).isNone then w.home.sessions.get? id else none

/-- Hands a message to the commands. -/
def dispatch (w : Hall) (id : Nat) (text : String) : Hall × Option (Principal × Note) :=
  match w.reader? id with
  | none => (w, none)
  | some s =>
    match Request.parse text with
    | .error v => (w, some (s.owner, .violation id v))
    | .ok request =>
      let (home, r) := commands.dispatch { owner := s.owner, request, session := id } w.home
      ({ w with home }.withAnswer id (some r), some (s.owner, .answer id r))

/-- Puts the answer at hand into the queue. -/
def enqueue (w : Hall) (id : Nat) : Hall :=
  match w.answers id with
  | none => w
  | some r => { w with home := (Act.respond id r).perform w.home }.withAnswer id none

/-- What the client of a session receives by what happens to the session. -/
def receipt (w : Hall) (id : Nat) (t : Touch) : Option (Principal × Note) :=
  (w.home.sessions.get? id).bind fun s =>
    (t.taken s).head?.map fun text => (s.owner, .received id text)

/-- Makes a change. -/
def set (w : Hall) (who : Principal) (name : String) (state : Json) :
    Hall × Option (Principal × Note) :=
  match w.home.set who name state with
  | .ok home => ({ w with home }, some (who, .changed))
  | .error e => (w, some (who, .refused e))

/-- The hall after a move, and what the move gives. -/
def step (w : Hall) : Move → Hall × Option (Principal × Note)
  | .create owner => ({ w with home := (Act.create owner).perform w.home }, none)
  | .register id => ({ w with home := (Act.register id).perform w.home }, none)
  | .touch id t => ({ w with home := (Act.touch id t).perform w.home }, w.receipt id t)
  | .dispatch id text => w.dispatch id text
  | .enqueue id => (w.enqueue id, none)
  | .resource who r =>
    ({ w with home := (w.home.serve who r).1 }, some (who, .served (w.home.serve who r).2))
  | .set who name state => w.set who name state

/-- The hall after moves in turn, and all that they give. -/
def run (w : Hall) : List Move → Hall × List (Principal × Note)
  | [] => (w, [])
  | m :: moves =>
    ((run (w.step m).1 moves).1, (w.step m).2.toList ++ (run (w.step m).1 moves).2)

end Hall

/-- The act that a move is, if it is any. -/
def Move.act? (w : Hall) : Move → Option Act
  | create owner => some (.create owner)
  | register id => some (.register id)
  | touch id t => some (.touch id t)
  | dispatch id text => (w.reader? id).map fun s => .ask (.message s.owner id text)
  | enqueue id => (w.answers id).map (.respond id)
  | resource who r => some (.ask (.resource who r))
  | set who name state => some (.ask (.set who name state))

/-- Does a move concern one session, and is it that one's own? -/
def Move.isOf (id : Nat) : Move → Bool
  | touch j _ | dispatch j _ | enqueue j => j = id
  | _ => false

variable {w : Hall} {id j : Nat} {s : Session} {m : Move}

/-! ## Moves as acts -/

theorem dispatch_of_reader (hs : w.reader? id = some s) (text : String) :
    w.dispatch id text = match Request.parse text with
      | .error v => (w, some (s.owner, .violation id v))
      | .ok request =>
        ({ w with
            home := (commands.dispatch { owner := s.owner, request, session := id } w.home).1
          }.withAnswer id
            (some (commands.dispatch { owner := s.owner, request, session := id } w.home).2),
          some (s.owner, .answer id
            (commands.dispatch { owner := s.owner, request, session := id } w.home).2)) := by
  unfold Hall.dispatch
  rw [hs]

/-- Every move does to the home what its act does. -/
theorem step_home (w : Hall) (m : Move) :
    (w.step m).1.home = match m.act? w with
      | some a => a.perform w.home
      | none => w.home := by
  cases m with
  | dispatch id text =>
    show (w.dispatch id text).1.home = _
    cases hs : w.reader? id with
    | none => simp only [Hall.dispatch, Move.act?, hs, Option.map_none]
    | some s =>
      rw [dispatch_of_reader hs]
      simp only [Move.act?, hs, Option.map_some, Act.perform, Ask.outcome]
      cases Request.parse text <;> rfl
  | enqueue id =>
    show (w.enqueue id).home = _
    cases hr : w.answers id with
    | none => simp only [Hall.enqueue, Move.act?, hr, Option.map_none]
    | some r =>
      simp only [Hall.enqueue, Move.act?, hr, Option.map_some]
      rfl
  | resource who r => exact (outcome_resource w.home who r).symm
  | set who name state =>
    show (w.set who name state).1.home = _
    unfold Hall.set
    simp only [Move.act?, Act.perform, Ask.outcome]
    cases w.home.set who name state <;> rfl
  | _ => rfl

/-- No move changes the answer at hand of a session that it is not a move of. -/
theorem step_answers_of_ne (hm : m.isOf id = false) : (w.step m).1.answers id = w.answers id := by
  cases m with
  | dispatch j text =>
    have hj : j ≠ id := of_decide_eq_false hm
    show (w.dispatch j text).1.answers id = w.answers id
    unfold Hall.dispatch
    split
    · rfl
    · split
      · rfl
      · exact if_neg (Ne.symm hj)
  | enqueue j =>
    have hj : j ≠ id := of_decide_eq_false hm
    show (w.enqueue j).answers id = w.answers id
    unfold Hall.enqueue
    split
    · rfl
    · exact if_neg (Ne.symm hj)
  | set who name state =>
    show (w.set who name state).1.answers id = w.answers id
    unfold Hall.set
    split <;> rfl
  | _ => rfl

end DeviceGateway.Home

namespace DeviceGateway.Channel

open Home

/-! ## What a task does -/

namespace Task

variable {m : Moment} {w w' : Hall} {p : Pipe} {t : Task} {s : Session} {taken : Taken}

/-- Has the session of a task the answer at hand that its stage says? -/
def AtHand (w : Hall) (t : Task) : Prop :=
  (w.answers t.session).toList.map Response.text = t.stage.answer

/-- Is a step of a task, from one hall to another, moves of its session? -/
def Moves (w : Hall) (t : Task) (taken : Taken) : Prop :=
  ∃ moves, (∀ m ∈ moves, m.isOf t.session = true) ∧ (w.run moves).1.home = taken.home ∧
    AtHand (w.run moves).1 taken.task

/-- A step with no answer at hand before or after. -/
theorem moves_quiet (hw : AtHand w t) (hbefore : t.stage.answer = [])
    (hid : taken.task.session = t.session) (hafter : taken.task.stage.answer = [])
    (moves : List Move) (hown : ∀ m ∈ moves, m.isOf t.session = true)
    (hhome : (w.run moves).1.home = taken.home)
    (hanswers : (w.run moves).1.answers = w.answers) : Moves w t taken := by
  refine ⟨moves, hown, hhome, ?_⟩
  unfold AtHand at hw ⊢
  rw [hanswers, hid, hafter, hw, hbefore]

theorem moves_handle (hcommands : m.commands = commands)
    (hs : w.home.sessions.get? t.session = some s) (hw : AtHand w t)
    (hbefore : t.stage.answer = []) (message : Message) :
    Moves w t (t.handle m w.home p s.owner message) := by
  have hfree : w.answers t.session = none := by
    unfold AtHand at hw
    rw [hbefore] at hw
    cases hr : w.answers t.session with
    | none => rfl
    | some r =>
      rw [hr] at hw
      cases hw
  unfold handle
  cases message with
  | text text =>
    dsimp only
    split
    · exact moves_quiet hw hbefore rfl rfl [] (List.forall_mem_nil _) rfl rfl
    · next request hparse =>
      have hreader : w.reader? t.session = some s := by
        unfold Hall.reader?
        rw [hfree]
        exact hs
      have hdispatch := dispatch_of_reader hreader text
      rw [hparse] at hdispatch
      refine ⟨[.dispatch t.session text], List.forall_mem_singleton.mpr (decide_eq_true rfl),
        ?_, ?_⟩
      · show (w.dispatch t.session text).1.home = _
        rw [hdispatch, hcommands]
        rfl
      · show ((w.dispatch t.session text).1.answers t.session).toList.map Response.text = _
        rw [hdispatch, hcommands]
        simp only [Hall.withAnswer, if_true]
        rfl
  | _ => exact moves_quiet hw hbefore rfl rfl [] (List.forall_mem_nil _) rfl rfl

/-- Whatever a task does to the home is moves of its session, and the answer at hand is the one that
the task is about to send. -/
theorem step_moves (hcommands : m.commands = commands) (hw : AtHand w t)
    (hstep : t.step m w.home p = some taken) : Moves w t taken := by
  obtain ⟨s, hs⟩ := exists_session_of_step hstep
  have hown : ∀ c : Touch, (Move.touch t.session c).isOf t.session = true :=
    fun _ => decide_eq_true rfl
  have hreceive : ∀ {text : String} {rest : List String}, s.queue = text :: rest →
      (w.run [.touch t.session .receive]).1.home = t.popped w.home s rest := by
    intro text rest hqueue
    show (Act.touch t.session .receive).perform w.home = _
    unfold Act.perform popped
    dsimp only
    congr 1
    refine Sessions.modify_congr hs ?_
    simp only [Touch.apply, Session.take?, hqueue]
  cases step_took hs hstep with
  | dropped hstage hqueue =>
    exact moves_quiet hw (by rw [hstage]; rfl) rfl rfl [.touch t.session .receive]
      (List.forall_mem_singleton.mpr (hown _)) (hreceive hqueue) rfl
  | wrote hstage hqueue =>
    exact moves_quiet hw (by rw [hstage]; rfl) rfl rfl [.touch t.session .receive]
      (List.forall_mem_singleton.mpr (hown _)) (hreceive hqueue) rfl
  | @handled receiver message hstage =>
    exact moves_handle (t := { t with wire := { t.wire with receiver } }) hcommands hs hw
      (by rw [hstage]; rfl) message
  | answered hstage =>
    obtain ⟨r, hr, rfl⟩ : ∃ r, w.answers t.session = some r ∧ r.text = _ := by
      unfold AtHand at hw
      rw [hstage] at hw
      cases hr : w.answers t.session with
      | none =>
        rw [hr] at hw
        cases hw
      | some r =>
        rw [hr] at hw
        exact ⟨r, rfl, List.singleton_inj.mp hw⟩
    refine ⟨[.enqueue t.session], List.forall_mem_singleton.mpr (decide_eq_true rfl), ?_, ?_⟩
    · show (w.enqueue t.session).home = _
      unfold Hall.enqueue
      rw [hr]
      rfl
    · show ((w.enqueue t.session).answers t.session).toList.map Response.text = []
      unfold Hall.enqueue
      rw [hr]
      simp only [Hall.withAnswer, if_true]
      rfl
  | retired hstage =>
    have hhome : ∀ e, (t.retire m w.home p e).home = t.mark .closing w.home := by
      intro e
      unfold retire
      rfl
    refine moves_quiet hw (by rw [hstage]; rfl) ?_ ?_ [.touch t.session (.mark .closing)]
      (List.forall_mem_singleton.mpr (hown _)) (hhome _).symm rfl
    · exact (Took.retired hstage : Took m w.home p t s _).session_eq
    · unfold retire
      dsimp only
      split <;> rfl
  | finished hstage =>
    refine moves_quiet hw (by rw [hstage]; rfl) rfl rfl
      [.touch t.session .hangUp, .touch t.session (.mark .closed)] ?_ ?_ rfl
    · exact List.forall_mem_cons.mpr ⟨hown _, List.forall_mem_singleton.mpr (hown _)⟩
    · show (Act.touch t.session (.mark .closed)).perform
        ((Act.touch t.session .hangUp).perform w.home) = _
      unfold Act.perform
      dsimp only
      rw [Sessions.modify_modify]
      rfl
  | flushed hstage | read hstage =>
    have hquiet : t.stage.answer = [] := by rw [hstage]; rfl
    exact moves_quiet hw hquiet rfl hquiet [] (List.forall_mem_nil _) rfl rfl
  | pushed hstage =>
    have hquiet : t.stage.answer = [] := by rcases hstage with h | h <;> rw [h] <;> rfl
    exact moves_quiet hw hquiet rfl hquiet [] (List.forall_mem_nil _) rfl rfl
  | overflow hstage | checked hstage | turned hstage | slept hstage | lost hstage | faulted hstage
  | hungUp hstage | unreadable hstage | stopped hstage | interrupted hstage | written hstage
  | stalled hstage | closed hstage =>
    exact moves_quiet hw (by rw [hstage]; rfl) rfl rfl [] (List.forall_mem_nil _) rfl rfl

end Task

end DeviceGateway.Channel
