import DeviceGateway.Proofs.Home.Changes
import DeviceGateway.Proofs.Home.Lanes

/-
  What a client makes of what it receives. A client that has asked for all devices takes the answer
  for its view and applies every change announced from there on. The answer shows the devices as
  they were when the command ran; a change made between that and the moment when the answer went
  into the queue is announced before the answer and lost in the view. So the messages make of any
  view what the last answer showed with the later changes applied (`Follows.step`, `Follows.run`).
-/

open DeviceGateway.Channel

namespace DeviceGateway

namespace Fields

/-- Setting a key twice to the same is setting it once. -/
theorem insert_insert (key : String) (value : Json) (fs : Fields) :
    insert key value (insert key value fs) = insert key value fs := by
  induction fs with
  | nil => simp [insert]
  | cons e fs ih =>
    obtain ⟨n, v⟩ := e
    by_cases hlt : key < n
    · simp [insert, hlt]
    · by_cases heq : key = n
      · subst heq
        simp [insert]
      · simp [insert, hlt, heq, ih]

end Fields

namespace Channel

/-! ## Answers that show devices -/

/-- The devices that an answer shows. -/
def Response.devices? (r : Response) : Option Fields :=
  match r.error, Fields.get? "devices" r.fields with
  | none, some (.obj devices) => some devices
  | _, _ => none

end Channel

namespace Home

/-- What a client makes of a message: an answer that shows devices is its new view, and a change
updates one device. -/
def see (view : Fields) (message : Json) : Fields :=
  match message.get? "msg" with
  | some (.str "ack") =>
    match message.get? "devices" with
    | some (.obj devices) => devices
    | _ => view
  | some (.str "devicechanged") =>
    match message.get? "name", message.get? "state" with
    | some (.str name), some state => Fields.insert name state view
    | _, _ => view
  | _ => view

theorem see_response (view : Fields) (r : Response) :
    see view r.json = r.devices?.getD view := by
  obtain ⟨msgid, error, fields⟩ := r
  cases error with
  | none =>
    have hmsg : Json.get? "msg" (Response.json { msgid, fields }) = some (.str "ack") := by
      show Fields.get? "msg" (Fields.erase "error" _) = _
      rw [Fields.get?_erase_of_ne (by decide), Fields.get?_insert_self]
    have hdevices : Json.get? "devices" (Response.json { msgid, fields }) =
        Fields.get? "devices" fields := by
      show Fields.get? "devices" (Fields.erase "error" _) = _
      rw [Fields.get?_erase_of_ne (by decide), Fields.get?_insert_of_ne (by decide),
        Fields.get?_insert_of_ne (by decide)]
    unfold see Response.devices?
    rw [hmsg, hdevices]
    dsimp only
    cases Fields.get? "devices" fields with
    | none => rfl
    | some value => cases value <;> rfl
  | some e =>
    have hmsg : Json.get? "msg" (Response.json { msgid, error := some e, fields }) =
        some (.str "nack") := by
      show Fields.get? "msg" (Fields.insert "error" e _) = _
      rw [Fields.get?_insert_of_ne (by decide), Fields.get?_insert_self]
    unfold see
    rw [hmsg]
    rfl

/-- An announcement heard more than once is as good as heard once. -/
theorem see_changes (view : Fields) (c : String × Json) {n : Nat} (hn : 0 < n) :
    (List.replicate n (change c.1 c.2).json).foldl see view = store view c := by
  induction n with
  | zero => cases hn
  | succ n ih =>
    rw [List.replicate_succ', List.foldl_append]
    cases n with
    | zero => rfl
    | succ n =>
      rw [ih n.succ_pos]
      exact Fields.insert_insert c.1 c.2 view

/-! ## What the commands show -/

/-- Of the commands, one shows all devices, and the others show none. -/
theorem commands_show : commands.All fun name f => ∀ call h,
    (CommandTable.respond call.request.msgid (f call h).edits (f call h).failure).devices? =
      if name = "getdevices" then some h.devices else none := by
  have hempty : (CommandTable.mk [] : CommandTable Home).All fun name f => ∀ call h,
      (CommandTable.respond call.request.msgid (f call h).edits (f call h).failure).devices? =
        if name = "getdevices" then some h.devices else none := fun _ hmem => by cases hmem
  unfold commands CommandTable.core
  refine (((hempty.register fun _ _ => rfl).register fun _ _ => rfl).register
    fun _ _ => rfl).register ?_
  intro call h
  unfold setDevice
  split
  · split <;> rfl
  · rfl

/-- The answer to the command that shows all devices shows the devices of this moment, and no other
answer shows any. -/
theorem dispatch_devices (call : Call) (h : Home) :
    (commands.dispatch call h).2.devices? =
      if call.request.command = "getdevices" then some h.devices else none := by
  unfold CommandTable.dispatch
  cases hfind : commands.find? call.request.command with
  | none =>
    have hname : call.request.command ≠ "getdevices" := by
      intro hname
      rw [hname] at hfind
      cases hfind
    rw [if_neg hname]
    rfl
  | some f => exact commands_show.of_find? hfind call h

/-! ## Watching a client -/

/-- What a call for all devices was shown, and the changes made since. -/
structure Snapshot where
  shown : Fields
  missed : List (String × Json) := []

/-- A call that was answered, and the changes made after its answer went into the queue. -/
structure Picture extends Snapshot where
  later : List (String × Json) := []

namespace Act

/-- The messages that are sent to a session. -/
def tells (id : Nat) : Act → Home → List Json
  | respond j r, _ => if j = id then [r.json] else []
  | ask q, h => (q.change? h).toList.flatMap fun c =>
    List.replicate (h.sessions.prune.entries.count id) (change c.1 c.2).json
  | _, _ => []

theorem tells_text (a : Act) (h : Home) (id : Nat) :
    (a.tells id h).map Json.text = a.offers id h := by
  cases a with
  | respond j r =>
    show (if j = id then [r.json] else []).map Json.text = if j = id then [r.text] else []
    split <;> rfl
  | ask q =>
    cases hchange : q.change? h with
    | none =>
      simp only [tells, offers, hchange]
      rfl
    | some c =>
      simp only [tells, offers, hchange, Option.toList_some, List.flatMap_singleton,
        List.map_replicate]
      rfl
  | _ => rfl

end Act

/-- The change that a move makes, if it makes one. -/
def Move.changes (w : Hall) (m : Move) : List (String × Json) :=
  ((m.act? w).bind (·.change? w.home)).toList

/-- Is a move a call of this session for all devices? -/
def Move.isCall (id : Nat) (w : Hall) : Move → Bool
  | dispatch j text => j = id && (w.reader? id).isSome &&
    (Request.parse text).toOption.any (·.command = "getdevices")
  | _ => false

/-- Does a move put an answer of this session into its queue? -/
def Move.isAnswer (id : Nat) (w : Hall) : Move → Bool
  | enqueue j => j = id && (w.answers id).isSome
  | _ => false

/-- A hall watched from the client of one session: the texts received, the messages sent, the call
for all devices that waits for its answer, and the last one answered. -/
structure Outlook where
  hall : Hall
  received : List String := []
  said : List Json := []
  asked : Option Snapshot := none
  answered : Option Picture := none

namespace Outlook

/-- After a move. -/
def step (id : Nat) (o : Outlook) (m : Move) : Outlook where
  hall := (o.hall.step m).1
  received := o.received ++ match m.act? o.hall, o.hall.home.sessions.get? id with
    | some a, some s => a.taken id s
    | _, _ => []
  said := o.said ++ match m.act? o.hall with
    | some a => a.tells id o.hall.home
    | none => []
  asked :=
    if m.isCall id o.hall then some { shown := o.hall.home.devices }
    else if m.isAnswer id o.hall then none
    else o.asked.map fun c => { c with missed := c.missed ++ m.changes o.hall }
  answered :=
    if m.isAnswer id o.hall then (o.asked.map fun c => { c with }).or o.answered
    else o.answered.map fun c => { c with later := c.later ++ m.changes o.hall }

/-- After moves in turn. -/
def run (id : Nat) (o : Outlook) (moves : List Move) : Outlook := moves.foldl (step id) o

end Outlook

variable {w : Hall} {o : Outlook} {m : Move} {id : Nat} {s : Session} {a : Act} {h : Home}

theorem devices_step (w : Hall) (m : Move) :
    (w.step m).1.home.devices = (m.changes w).foldl store w.home.devices := by
  rw [step_home]
  unfold Move.changes
  cases m.act? w with
  | none => rfl
  | some a => exact devices_perform a w.home

/-- A registered session that is there stays registered. -/
theorem count_pos_perform (hs : h.sessions.get? id = some s) (hpresent : s.isPresent = true)
    (hcount : 0 < h.sessions.entries.count id) :
    0 < (a.perform h).sessions.entries.count id := by
  by_cases ha : a = .register id
  · rw [ha]
    show 0 < (h.sessions.entries ++ [id]).count id
    rw [List.count_append]
    exact Nat.add_pos_left hcount _
  · rcases count_perform (h := h) ha with heq | heq
    · rw [heq]
      exact hcount
    · rw [heq, count_prune, isHeld_of_isPresent hs hpresent, if_pos rfl]
      exact hcount

/-- What a client sees of an act that answers it nothing is the change made. -/
theorem see_tells (hcount : 0 < h.sessions.prune.entries.count id) (ha : ∀ r, a ≠ .respond id r)
    (view : Fields) : (a.tells id h).foldl see view = (a.change? h).toList.foldl store view := by
  cases a with
  | respond j r =>
    have hj : j ≠ id := fun hj => ha r (congrArg (Act.respond · r) hj)
    simp only [Act.tells, if_neg hj]
    rfl
  | ask q =>
    simp only [Act.tells, Act.change?]
    cases q.change? h with
    | none => rfl
    | some c =>
      rw [Option.toList_some, List.flatMap_singleton]
      exact see_changes view c hcount
  | _ => rfl

theorem act?_of_isAnswer (hm : m.isAnswer id w = true) :
    ∃ r, m = .enqueue id ∧ w.answers id = some r ∧ m.act? w = some (.respond id r) := by
  cases m with
  | enqueue j =>
    obtain ⟨hj, hr⟩ := Bool.and_eq_true_iff.mp hm
    obtain ⟨r, hr⟩ := Option.isSome_iff_exists.mp hr
    obtain rfl : j = id := of_decide_eq_true hj
    refine ⟨r, rfl, hr, ?_⟩
    simp only [Move.act?, hr, Option.map_some]
  | _ => cases hm

theorem not_respond_of_isAnswer (hm : m.isAnswer id w = false) (ha : m.act? w = some a)
    (r : Response) : a ≠ .respond id r := by
  rintro rfl
  cases m with
  | enqueue j =>
    simp only [Move.act?] at ha
    obtain ⟨r', hr, heq⟩ := Option.map_eq_some_iff.mp ha
    cases heq
    simp [Move.isAnswer, hr] at hm
  | dispatch j text =>
    simp only [Move.act?] at ha
    obtain ⟨s, _, heq⟩ := Option.map_eq_some_iff.mp ha
    cases heq
  | _ => cases ha

theorem answers_of_reader (hs : w.reader? id = some s) : w.answers id = none := by
  unfold Hall.reader? at hs
  split at hs
  · next hnone => exact Option.isNone_iff_eq_none.mp hnone
  · cases hs

/-- A session that hands a message over has an answer at hand that shows all devices, if the message
is a call for them, and none otherwise. -/
theorem shows_dispatch (hs : w.reader? id = some s) (text : String) :
    ((w.dispatch id text).1.answers id).bind Response.devices? =
      if (Request.parse text).toOption.any (·.command = "getdevices") then some w.home.devices
      else none := by
  rw [dispatch_of_reader hs]
  cases Request.parse text with
  | error v =>
    dsimp only
    rw [answers_of_reader hs]
    rfl
  | ok request =>
    simp only [Hall.withAnswer, if_true, Option.bind_some, Except.toOption, Option.any_some,
      decide_eq_true_eq]
    exact dispatch_devices _ _

/-- A call finds no answer at hand, changes nothing, and leaves an answer that shows the devices. -/
theorem step_of_isCall (hm : m.isCall id w = true) :
    w.answers id = none ∧ m.changes w = [] ∧
      ((w.step m).1.answers id).bind Response.devices? = some w.home.devices := by
  cases m with
  | dispatch j text =>
    obtain ⟨hreader, hcommand⟩ := Bool.and_eq_true_iff.mp hm
    obtain ⟨hj, hreader⟩ := Bool.and_eq_true_iff.mp hreader
    obtain rfl : j = id := of_decide_eq_true hj
    obtain ⟨s, hs⟩ := Option.isSome_iff_exists.mp hreader
    refine ⟨answers_of_reader hs, ?_, ?_⟩
    · have hasks : (Ask.message s.owner j text).asks = none := by
        cases hparse : Request.parse text with
        | error v =>
          rw [hparse] at hcommand
          cases hcommand
        | ok request =>
          rw [hparse] at hcommand
          have hname : request.command = "getdevices" := of_decide_eq_true hcommand
          simp only [Ask.asks, hparse]
          show asked request = none
          unfold asked
          rw [hname]
          rfl
      unfold Move.changes
      simp only [Move.act?, hs, Option.map_some, Option.bind_some, Act.change?, Ask.change?, hasks,
        ite_self]
      rfl
    · show ((w.dispatch j text).1.answers j).bind Response.devices? = _
      rw [shows_dispatch hs, hcommand]
      rfl
  | _ => cases hm

/-- Any other move but an answer leaves what the answer at hand shows as it is. -/
theorem shows_step (hcall : m.isCall id w = false) (hanswer : m.isAnswer id w = false) :
    ((w.step m).1.answers id).bind Response.devices? = (w.answers id).bind Response.devices? := by
  cases hof : m.isOf id with
  | false => rw [step_answers_of_ne hof]
  | true =>
    cases m with
    | touch j t => rfl
    | dispatch j text =>
      obtain rfl : j = id := of_decide_eq_true hof
      show ((w.dispatch j text).1.answers j).bind Response.devices? = _
      cases hs : w.reader? j with
      | none => simp only [Hall.dispatch, hs]
      | some s =>
        have hcommand : (Request.parse text).toOption.any (·.command = "getdevices") = false := by
          simpa [Move.isCall, hs] using hcall
        rw [shows_dispatch hs, hcommand, answers_of_reader hs]
        rfl
    | enqueue j =>
      obtain rfl : j = id := of_decide_eq_true hof
      have hnone : w.answers j = none := by simpa [Move.isAnswer] using hanswer
      show ((w.enqueue j).answers j).bind Response.devices? = _
      simp only [Hall.enqueue, hnone]
    | _ => cases hof

/-! ## What holds of a watched client -/

/-- Does a session accept every text that a move sends to it? -/
def accepts (id : Nat) (w : Hall) (m : Move) : Bool :=
  match m.act? w, w.home.sessions.get? id with
  | some a, some s => (s.sendAll (a.offers id w.home)).2 = a.offers id w.home
  | _, _ => true

/-- Does a session accept every text that moves in turn send to it? -/
def acceptsAll (id : Nat) : Hall → List Move → Bool
  | _, [] => true
  | w, m :: moves => accepts id w m && acceptsAll id (w.step m).1 moves

/-- What ties the client of a session to the devices. The answer at hand shows what the waiting call
was shown; and while the session is there, it is registered, its client has received or will receive
the messages sent, and these make of any view what the last answer showed, with all later
changes. -/
structure Follows (id : Nat) (view : Fields) (o : Outlook) : Prop where
  waits : (o.hall.answers id).bind Response.devices? = o.asked.map (·.shown)
  asked_devices : ∀ c, o.asked = some c → o.hall.home.devices = c.missed.foldl store c.shown
  exists_session : ∃ s, o.hall.home.sessions.get? id = some s ∧ (s.isPresent = true →
    0 < o.hall.home.sessions.entries.count id ∧
    o.received ++ s.queue = o.said.map Json.text ∧
    ∀ c, o.answered = some c →
      o.said.foldl see view = c.later.foldl store c.shown ∧
      o.hall.home.devices = c.later.foldl store (c.missed.foldl store c.shown))

/-- The session after a move: while it is there it stays registered, and its client has received or
will receive what is said. -/
theorem hears_step (hs : o.hall.home.sessions.get? id = some s)
    (haccepts : accepts id o.hall m = true)
    (hheard : s.isPresent = true → 0 < o.hall.home.sessions.entries.count id ∧
      o.received ++ s.queue = o.said.map Json.text) :
    ∃ s', (o.step id m).hall.home.sessions.get? id = some s' ∧ (s'.isPresent = true →
      s.isPresent = true ∧ 0 < (o.step id m).hall.home.sessions.entries.count id ∧
      (o.step id m).received ++ s'.queue = (o.step id m).said.map Json.text) := by
  have hhome := step_home o.hall m
  unfold Outlook.step
  dsimp only
  cases ha : m.act? o.hall with
  | none =>
    rw [ha] at hhome
    rw [hhome]
    refine ⟨s, hs, fun hpresent => ⟨hpresent, ?_⟩⟩
    simpa using hheard hpresent
  | some a =>
    rw [ha] at hhome
    rw [hhome, hs]
    refine ⟨_, get?_perform a hs, fun hpresent' => ?_⟩
    have hall : (s.sendAll (a.offers id o.hall.home)).2 = a.offers id o.hall.home := by
      unfold accepts at haccepts
      rw [ha, hs] at haccepts
      exact of_decide_eq_true haccepts
    obtain ⟨hpresent, hqueue⟩ := heard_perform hs (get?_perform a hs) hpresent' hall
    obtain ⟨hcount, htexts⟩ := hheard hpresent
    refine ⟨hpresent, count_pos_perform hs hpresent hcount, ?_⟩
    dsimp only
    rw [List.append_assoc, hqueue, ← List.append_assoc, htexts, List.map_append, Act.tells_text]

/-- What the client sees of a move that is no answer is the changes made. -/
theorem see_step (view : Fields) (hm : m.isAnswer id o.hall = false)
    (hcount : 0 < o.hall.home.sessions.prune.entries.count id) :
    (o.step id m).said.foldl see view = (m.changes o.hall).foldl store (o.said.foldl see view) := by
  unfold Outlook.step Move.changes
  dsimp only
  rw [List.foldl_append]
  cases ha : m.act? o.hall with
  | none => rfl
  | some a => exact see_tells hcount (not_respond_of_isAnswer hm ha) _

/-- The call that waits, after a move. -/
theorem asked_step {view : Fields} (ho : Follows id view o) :
    ((o.step id m).hall.answers id).bind Response.devices? = (o.step id m).asked.map (·.shown) ∧
    ∀ c, (o.step id m).asked = some c →
      (o.step id m).hall.home.devices = c.missed.foldl store c.shown := by
  have hdevices := devices_step o.hall m
  unfold Outlook.step
  dsimp only
  rw [hdevices]
  cases hcall : m.isCall id o.hall with
  | true =>
    obtain ⟨_, hnone, hshows⟩ := step_of_isCall hcall
    rw [hshows, hnone]
    refine ⟨rfl, ?_⟩
    rintro c ⟨⟩
    rfl
  | false =>
    cases hanswer : m.isAnswer id o.hall with
    | true =>
      obtain ⟨r, rfl, hr, _⟩ := act?_of_isAnswer hanswer
      refine ⟨?_, nofun⟩
      show ((o.hall.enqueue id).answers id).bind _ = none
      unfold Hall.enqueue
      rw [hr]
      simp only [Hall.withAnswer, if_true]
      rfl
    | false =>
      rw [shows_step hcall hanswer, ho.waits]
      simp only [Bool.false_eq_true, if_false]
      refine ⟨by rw [Option.map_map]; rfl, ?_⟩
      intro c' hc'
      obtain ⟨c, hc, rfl⟩ := Option.map_eq_some_iff.mp hc'
      rw [ho.asked_devices c hc, ← List.foldl_append]

theorem Follows.step {view : Fields} (ho : Follows id view o)
    (haccepts : accepts id o.hall m = true) :
    Follows id view (o.step id m) := by
  obtain ⟨s, hs, hheard⟩ := ho.exists_session
  obtain ⟨s', hs', hheard'⟩ := hears_step hs haccepts fun hp => ⟨(hheard hp).1, (hheard hp).2.1⟩
  obtain ⟨hwaits, hasked⟩ := asked_step (m := m) ho
  refine ⟨hwaits, hasked, s', hs', fun hpresent' => ?_⟩
  obtain ⟨hpresent, hcount', htexts'⟩ := hheard' hpresent'
  obtain ⟨hcount, _, hlast⟩ := hheard hpresent
  refine ⟨hcount', htexts', ?_⟩
  have hdevices : (o.step id m).hall.home.devices = _ := devices_step o.hall m
  rw [hdevices]
  cases hanswer : m.isAnswer id o.hall with
  | true =>
    obtain ⟨r, rfl, hr, hact⟩ := act?_of_isAnswer hanswer
    have hsaid : (o.step id (.enqueue id)).said.foldl see view =
        r.devices?.getD (o.said.foldl see view) := by
      simp only [Outlook.step, hact, Act.tells, if_true, List.foldl_append, List.foldl_cons,
        List.foldl_nil, see_response]
    have hstill : Move.changes o.hall (.enqueue id) = [] := by
      simp only [Move.changes, hact, Option.bind_some]
      rfl
    have hshows : r.devices? = o.asked.map (·.shown) := by
      rw [← ho.waits, hr, Option.bind_some]
    have hanswered : (o.step id (.enqueue id)).answered =
        (o.asked.map fun c => { c with }).or o.answered := if_pos hanswer
    rw [hsaid, hstill, hanswered, hshows]
    intro c' hc'
    cases hc : o.asked with
    | none =>
      rw [hc] at hc'
      exact hlast c' hc'
    | some c =>
      rw [hc] at hc'
      cases hc'
      exact ⟨rfl, ho.asked_devices c hc⟩
  | false =>
    have hprune : 0 < o.hall.home.sessions.prune.entries.count id := by
      rw [count_prune, isHeld_of_isPresent hs hpresent, if_pos rfl]
      exact hcount
    rw [see_step view hanswer hprune]
    intro c' hc'
    simp only [Outlook.step, hanswer, Bool.false_eq_true, if_false] at hc'
    obtain ⟨c, hc, rfl⟩ := Option.map_eq_some_iff.mp hc'
    obtain ⟨hview, hhome⟩ := hlast c hc
    rw [hview, hhome, ← List.foldl_append, ← List.foldl_append]
    exact ⟨rfl, rfl⟩

theorem Follows.run {view : Fields} {moves : List Move} (ho : Follows id view o)
    (haccepts : acceptsAll id o.hall moves = true) : Follows id view (o.run id moves) := by
  induction moves generalizing o with
  | nil => exact ho
  | cons m moves ih =>
    obtain ⟨hfirst, hrest⟩ := Bool.and_eq_true_iff.mp haccepts
    exact ih (ho.step hfirst) hrest

end Home

end DeviceGateway
