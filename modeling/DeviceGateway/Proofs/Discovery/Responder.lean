import DeviceGateway.Discovery.Responder
import DeviceGateway.Proofs.Json.RoundTrip

/-
  The responder keeps nothing of a datagram. What it does at the end of a wait is a function of how
  the wait ended (`Turns.responses`), although every datagram is read over what is left of those
  before; so it answers each datagram once, to its sender (`datagrams_answered_once`). A failed
  receive costs a rest (`Turns.rest_before_receive`), and nothing but the signal ends the loop.
-/

namespace DeviceGateway.Discovery

/-- The turns that take the loop from one state to another, whatever ends its waits, and when. -/
inductive Turns (stop : Option Nat) : Responder → List Turn → Responder → Prop
  | nil (r : Responder) : Turns stop r [] r
  | cons {r r' r'' : Responder} {t : Turn} {ts : List Turn}
      (hstep : r.step stop t.time t.ending = some (r', t.act)) (hrest : Turns stop r' ts r'') :
      Turns stop r (t :: ts) r''

variable {stop : Option Nat} {now horizon : Nat} {r r' : Responder} {ending : Ending} {act : Act}
  {t : Turn} {ts : List Turn} {name endpoint : String}

/-! ## One turn -/

/-- What the loop can do when a wait ends. -/
inductive Does (stop : Option Nat) (now : Nat) (r : Responder) : Ending → Responder → Act → Prop
  | received {data : Bytes} {sender : Net.Address} (hwait : r.wait = .datagram) :
      Does stop now r (.received data sender) (r.answer data sender).1 (r.answer data sender).2
  | failed {kind : String} (hwait : r.wait = .datagram) :
      Does stop now r (.failed kind) { r with wait := .rest (now + failureRest) } .rest
  | sent {error : Option String} (hwait : r.wait = .sending) :
      Does stop now r (.sent error) { r with wait := .datagram } .receive
  | rested {wake : Nat} (hwait : r.wait = .rest wake) (hwake : wake ≤ now) :
      Does stop now r .rested { r with wait := .datagram } .receive
  | stopped {s : Nat} (hhears : r.hearsStop = true) (hstop : stop = some s) (hs : s ≤ now) :
      Does stop now r .stopped { r with wait := .nothing } .stop

theorem endWait_eq_some_iff :
    r.endWait stop now ending = some (r', act) ↔ Does stop now r ending r' act := by
  unfold Responder.endWait
  constructor
  · intro h
    cases ending with
    | received data sender =>
      obtain ⟨hwait, h⟩ := Option.ite_none_right_eq_some.mp h
      cases h
      exact .received hwait
    | failed kind =>
      obtain ⟨hwait, h⟩ := Option.ite_none_right_eq_some.mp h
      cases h
      exact .failed hwait
    | sent error =>
      obtain ⟨hwait, h⟩ := Option.ite_none_right_eq_some.mp h
      cases h
      exact .sent hwait
    | rested =>
      dsimp only at h
      split at h
      · next wake hwait =>
        obtain ⟨hwake, h⟩ := Option.ite_none_right_eq_some.mp h
        cases h
        exact .rested hwait hwake
      · cases h
    | stopped =>
      obtain ⟨hcond, h⟩ := Option.ite_none_right_eq_some.mp h
      cases h
      obtain ⟨hhears, hfired⟩ := Bool.and_eq_true_iff.mp hcond
      obtain ⟨s, hstop, hs⟩ := (Option.any_eq_true _ _).mp hfired
      exact .stopped hhears hstop (of_decide_eq_true hs)
  · intro h
    cases h with
    | received hwait => simp [hwait]
    | failed hwait => simp [hwait]
    | sent hwait => simp [hwait]
    | rested hwait hwake => simp [hwait, hwake]
    | stopped hhears hstop hs => simp [hhears, hstop, hs]

theorem step_eq_some_iff : r.step stop now ending = some (r', act) ↔
    r.time ≤ now ∧ ∃ r₁, Does stop now r ending r₁ act ∧ r' = { r₁ with time := now } := by
  unfold Responder.step
  rw [Option.ite_none_left_eq_some, Nat.not_lt, Option.map_eq_some_iff]
  refine and_congr_right fun _ => ⟨?_, ?_⟩
  · rintro ⟨⟨r₁, act₁⟩, hend, heq⟩
    cases heq
    exact ⟨r₁, endWait_eq_some_iff.mp hend, rfl⟩
  · rintro ⟨r₁, hdoes, rfl⟩
    exact ⟨(r₁, act), endWait_eq_some_iff.mpr hdoes, rfl⟩

/-! ## Nothing is kept of a datagram -/

/-- The reply to a datagram, of which no more is read than the buffer holds. -/
def reply (name endpoint : String) (data : Bytes) : Json :=
  beacon (data.take maxQueryBytes) name endpoint

/-- What is done when a wait ends, whatever was before. -/
def response (name endpoint : String) : Ending → Act
  | .received data sender => .send sender (reply name endpoint data).text
  | .failed _ => .rest
  | .sent _ => .receive
  | .rested => .receive
  | .stopped => .stop

/-- Does the loop serve this node, with its whole buffer? -/
structure Serves (name endpoint : String) (r : Responder) : Prop where
  name : r.name = name
  endpoint : r.endpoint = endpoint
  room : r.buffer.length = maxQueryBytes

theorem serves_start (name endpoint : String) : Serves name endpoint { name, endpoint } :=
  ⟨rfl, rfl, List.length_replicate⟩

/-- What is read from the buffer is what was just written there. -/
theorem take_overwritten (data buffer : Bytes) :
    (data.take (min data.length buffer.length) ++
      buffer.drop (min data.length buffer.length)).take (min data.length buffer.length) =
      data.take buffer.length := by
  have hlength : (data.take (min data.length buffer.length)).length =
      min data.length buffer.length := by
    rw [List.length_take]
    omega
  rw [List.take_left' hlength]
  exact List.take_eq_take_iff.mpr (by omega)

theorem Does.serves (h : Serves name endpoint r) (hdoes : Does stop now r ending r' act) :
    Serves name endpoint r' ∧ act = response name endpoint ending := by
  obtain ⟨hname, hendpoint, hroom⟩ := h
  cases hdoes with
  | @received data sender =>
    refine ⟨⟨hname, hendpoint, ?_⟩, ?_⟩
    · show (_ ++ _ : Bytes).length = _
      rw [List.length_append, List.length_take, List.length_drop, ← hroom]
      omega
    · have hread := take_overwritten data r.buffer
      rw [hroom] at hread
      simp only [Responder.answer, response, reply, hname, hendpoint, hroom, hread]
  | failed => exact ⟨⟨hname, hendpoint, hroom⟩, rfl⟩
  | sent => exact ⟨⟨hname, hendpoint, hroom⟩, rfl⟩
  | rested => exact ⟨⟨hname, hendpoint, hroom⟩, rfl⟩
  | stopped => exact ⟨⟨hname, hendpoint, hroom⟩, rfl⟩

theorem step_serves (h : Serves name endpoint r) (hstep : r.step stop now ending = some (r', act)) :
    Serves name endpoint r' ∧ act = response name endpoint ending := by
  obtain ⟨-, r₁, hdoes, rfl⟩ := step_eq_some_iff.mp hstep
  obtain ⟨⟨hname, hendpoint, hroom⟩, hact⟩ := hdoes.serves h
  exact ⟨⟨hname, hendpoint, hroom⟩, hact⟩

/-- Every turn does what the end of its wait calls for, and nothing of the turns before counts. -/
theorem Turns.responses (h : Turns stop r ts r') (hserves : Serves name endpoint r) :
    ∀ t ∈ ts, t.act = response name endpoint t.ending := by
  induction h with
  | nil => exact List.forall_mem_nil _
  | cons hstep _ ih =>
    obtain ⟨hserves', hact⟩ := step_serves hserves hstep
    exact List.forall_mem_cons.mpr ⟨hact, ih hserves'⟩

/-- The datagram and its sender, when a wait ended with one. -/
def Ending.datagram? : Ending → Option (Bytes × Net.Address)
  | .received data sender => some (data, sender)
  | _ => none

/-- The datagrams that were received, and their senders. -/
def received (ts : List Turn) : List (Bytes × Net.Address) := ts.filterMap (·.ending.datagram?)

/-- The datagrams that were sent, and their receivers. -/
def sent (ts : List Turn) : List (String × Net.Address) :=
  ts.filterMap fun t =>
    match t.act with
    | .send receiver text => some (text, receiver)
    | _ => none

theorem sent_of_responses (h : ∀ t ∈ ts, t.act = response name endpoint t.ending) :
    sent ts = (received ts).map fun q => ((reply name endpoint q.1).text, q.2) := by
  unfold sent received
  rw [List.map_filterMap]
  refine List.filterMap_congr fun t ht => ?_
  rw [h t ht]
  cases t.ending <;> rfl

/-! ## Rests and the end -/

theorem Does.awake (h : Does stop now r ending r' act) : r.wait ≠ .nothing := by
  intro hnothing
  cases h with
  | received hwait | failed hwait | sent hwait | rested hwait =>
    rw [hnothing] at hwait
    cases hwait
  | stopped hhears =>
    unfold Responder.hearsStop at hhears
    rw [hnothing] at hhears
    cases hhears

/-- A rest is ended when it is over, or by the signal. -/
theorem Does.of_rest {wake : Nat} (h : Does stop now r ending r' act)
    (hrest : r.wait = .rest wake) : wake ≤ now ∨ r'.wait = .nothing ∧ act = .stop := by
  cases h with
  | received hwait | failed hwait | sent hwait =>
    rw [hrest] at hwait
    cases hwait
  | rested hwait hwake =>
    rw [hrest] at hwait
    cases hwait
    exact .inl hwake
  | stopped => exact .inr ⟨rfl, rfl⟩

theorem Does.of_failed {kind : String} (h : Does stop now r (.failed kind) r' act) :
    r'.wait = .rest (now + failureRest) := by
  cases h
  rfl

theorem Does.nothing (h : Does stop now r ending r' act) (hnothing : r'.wait = .nothing) :
    ∃ s, stop = some s ∧ s ≤ now := by
  cases h with
  | received | failed | sent | rested => cases hnothing
  | stopped _ hstop hs => exact ⟨_, hstop, hs⟩

/-- Time does not run backwards. -/
theorem Turns.time_le (h : Turns stop r ts r') : ∀ t ∈ ts, r.time ≤ t.time := by
  induction h with
  | nil => exact List.forall_mem_nil _
  | cons hstep _ ih =>
    obtain ⟨hle, r₁, -, rfl⟩ := step_eq_some_iff.mp hstep
    exact List.forall_mem_cons.mpr ⟨hle, fun t ht => Nat.le_trans hle (ih t ht)⟩

theorem Turns.eq_nil (h : Turns stop r ts r') (hnothing : r.wait = .nothing) : ts = [] := by
  cases h with
  | nil => rfl
  | cons hstep =>
    obtain ⟨-, r₁, hdoes, -⟩ := step_eq_some_iff.mp hstep
    exact absurd hnothing hdoes.awake

/-- While the loop rests, it receives no sooner than the rest is over. -/
theorem Turns.rest_before_receive {wake : Nat} (h : Turns stop r ts r')
    (hrest : r.wait = .rest wake) : ∀ t ∈ ts, t.act = .receive → wake ≤ t.time := by
  cases h with
  | nil => exact List.forall_mem_nil _
  | cons hstep hturns =>
    obtain ⟨-, r₁, hdoes, rfl⟩ := step_eq_some_iff.mp hstep
    rcases hdoes.of_rest hrest with hwake | ⟨hnothing, hact⟩
    -- From then on it is late enough; and after the signal there is no turn.
    · have hlater := hturns.time_le
      exact List.forall_mem_cons.mpr
        ⟨fun _ => hwake, fun t ht _ => Nat.le_trans hwake (hlater t ht)⟩
    · rw [hturns.eq_nil hnothing, List.forall_mem_singleton, hact]
      nofun

theorem Turns.split {before after : List Turn} (h : Turns stop r (before ++ after) r') :
    ∃ r₁, Turns stop r before r₁ ∧ Turns stop r₁ after r' := by
  induction before generalizing r with
  | nil => exact ⟨r, .nil r, h⟩
  | cons t before ih =>
    cases h with
    | cons hstep hrest =>
      obtain ⟨r₁, hbefore, hafter⟩ := ih hrest
      exact ⟨r₁, .cons hstep hbefore, hafter⟩

/-- Behind a failed receive there is no other for some time. -/
theorem Turns.rest_after_failure {before after : List Turn} {kind : String}
    (h : Turns stop r (before ++ t :: after) r') (hfailed : t.ending = .failed kind) :
    ∀ u ∈ after, u.act = .receive → t.time + failureRest ≤ u.time := by
  obtain ⟨r₁, -, hafter⟩ := h.split
  cases hafter with
  | cons hstep hturns =>
    obtain ⟨-, r₂, hdoes, rfl⟩ := step_eq_some_iff.mp hstep
    rw [hfailed] at hdoes
    exact hturns.rest_before_receive hdoes.of_failed

/-- Nothing but the signal ends the loop. -/
theorem Turns.stop_fired (h : Turns stop r ts r') (hwait : r.wait ≠ .nothing)
    (hnothing : r'.wait = .nothing) : ∃ s, stop = some s ∧ s ≤ r'.time := by
  induction h with
  | nil => exact absurd hnothing hwait
  | @cons r r' r'' t ts hstep hrest ih =>
    obtain ⟨-, r₁, hdoes, rfl⟩ := step_eq_some_iff.mp hstep
    -- The turn that ends the loop is the last one.
    by_cases hend : r₁.wait = .nothing
    · obtain ⟨s, hstop, hs⟩ := hdoes.nothing hend
      cases hrest.eq_nil hend
      cases hrest
      exact ⟨s, hstop, hs⟩
    · exact ih hend hnothing

/-! ## Replies read back -/

theorem reply_eq (name endpoint : String) (data : Bytes) : reply name endpoint data =
    .obj [("ext", .str endpoint),
      ("key", .str (asciiText (Base64.encode (Hash.sha256 (data.take maxQueryBytes))))),
      ("name", .str name)] := by
  have hname : ¬ "name" < "ext" := by decide
  have hname' : "name" ≠ "ext" := by decide
  have hkey : ¬ "key" < "ext" := by decide
  have hkey' : "key" ≠ "ext" := by decide
  have hkeyname : "key" < "name" := by decide
  simp only [reply, beacon, Json.ofPairs, Fields.ofLatest, List.reverse_cons, List.reverse_nil,
    List.nil_append, List.cons_append, List.foldl_cons, List.foldl_nil, Fields.insertNew,
    if_neg hname, if_neg hname', if_neg hkey, if_neg hkey', if_pos hkeyname]

theorem parse_reply (name endpoint : String) (data : Bytes) :
    Json.parse (utf8 (reply name endpoint data).text) = .ok (reply name endpoint data) := by
  refine Json.parse_text ?_
  rw [reply_eq]
  refine .obj ?_ ?_
  · have hext : "ext" < "key" := by decide
    have hext' : "ext" < "name" := by decide
    have hkey : "key" < "name" := by decide
    simp only [Fields.Sorted, List.pairwise_cons, List.forall_mem_cons]
    exact ⟨⟨hext, hext', List.forall_mem_nil _⟩, ⟨hkey, List.forall_mem_nil _⟩,
      List.forall_mem_nil _, .nil⟩
  · simp only [List.forall_mem_cons]
    exact ⟨.str _, .str _, .str _, List.forall_mem_nil _⟩

/-! ## Runs on receipts -/

/-- Is a run made of turns of the loop, and is the loop over when the run ended by itself? -/
def Run.MadeFrom (stop : Option Nat) (r : Responder) (run : Run) : Prop :=
  ∃ r', Turns stop r run.turns r' ∧ (run.stopped = true → r'.wait = .nothing)

/-- The signal ends a wait that it comes by. -/
theorem halt_made {latest s : Nat} (h : r.signalBy stop latest = some s) (unread : Nat) :
    (play.halt r s unread).MadeFrom stop r := by
  obtain ⟨hstop, hcond⟩ := Option.filter_eq_some_iff.mp h
  have hstep : r.step stop (max s r.time) .stopped =
      some ({ r with wait := .nothing, time := max s r.time }, .stop) :=
    step_eq_some_iff.mpr ⟨Nat.le_max_right _ _, _,
      .stopped (Bool.and_eq_true_iff.mp hcond).1 hstop (Nat.le_max_left _ _), rfl⟩
  exact ⟨_, .cons hstep (.nil _), fun _ => rfl⟩

theorem cut_made (stop : Option Nat) (r : Responder) (unread : Nat) :
    (play.cut unread).MadeFrom stop r := ⟨r, .nil r, nofun⟩

theorem play_made (stop : Option Nat) (horizon : Nat) (es : List (Nat × Ending)) (r : Responder) :
    (play stop horizon r es).MadeFrom stop r := by
  induction es generalizing r with
  | nil =>
    unfold play
    split
    · next hsignal => exact halt_made hsignal 0
    · exact cut_made stop r 0
  | cons e es ih =>
    obtain ⟨time, ending⟩ := e
    unfold play
    dsimp only
    split
    · next hsignal => exact halt_made hsignal _
    · split
      · exact cut_made stop r _
      · split
        · next r' act hstep =>
          obtain ⟨r'', hturns, hend⟩ := ih r'
          exact ⟨r'', .cons hstep hturns, hend⟩
        · exact cut_made stop r _

/-- Without a signal every ending that the loop can have at its time comes to pass. -/
theorem play_does {time : Nat} (more : List (Nat × Ending)) (hle : r.time ≤ time)
    (hhorizon : time ≤ horizon) (hdoes : Does none time r ending r' act) :
    play none horizon r ((time, ending) :: more) =
      (play none horizon { r' with time := time } more).after { time, ending, act } := by
  have hsignal : r.signalBy none (min time horizon) = none := rfl
  have hstep : r.step none time ending = some ({ r' with time := time }, act) :=
    step_eq_some_iff.mpr ⟨hle, r', hdoes, rfl⟩
  rw [play, hsignal]
  simp only [if_neg (Nat.not_lt.mpr hhorizon), hstep]

/-- Without a signal all receipts come to pass. -/
theorem play_endings (receipts : List Receipt) (hwait : r.wait = .datagram)
    (hall : ∀ e ∈ endings r.time receipts, e.1 ≤ horizon) :
    (play none horizon r (endings r.time receipts)).turns.map (fun t => (t.time, t.ending)) =
      endings r.time receipts := by
  induction receipts generalizing r with
  | nil => rfl
  | cons x receipts ih =>
    cases x with
    | datagram wait data sender sending error =>
      obtain ⟨hfirst, hall⟩ := List.forall_mem_cons.mp hall
      obtain ⟨hsecond, hall⟩ := List.forall_mem_cons.mp hall
      have hrest := @ih { (r.answer data sender).1 with
        wait := .datagram, time := r.time + wait + sending } rfl hall
      rw [endings, play_does _ (Nat.le_add_right _ _) hfirst (.received hwait),
        play_does _ (Nat.le_add_right _ _) hsecond (.sent rfl)]
      exact congrArg (fun es => _ :: _ :: es) hrest
    | failure wait kind =>
      obtain ⟨hfirst, hall⟩ := List.forall_mem_cons.mp hall
      obtain ⟨hsecond, hall⟩ := List.forall_mem_cons.mp hall
      have hrest := @ih { r with wait := .datagram, time := r.time + wait + failureRest } rfl hall
      rw [endings, play_does _ (Nat.le_add_right _ _) hfirst (.failed hwait),
        play_does _ (Nat.le_add_right _ _) hsecond (.rested rfl (Nat.le_refl _))]
      exact congrArg (fun es => _ :: _ :: es) hrest

/-! ## The whole responder -/

/-- The datagram of a receipt and its sender. -/
def Receipt.datagram? : Receipt → Option (Bytes × Net.Address)
  | .datagram _ data sender _ _ => some (data, sender)
  | .failure _ _ => none

theorem datagrams_of_endings (time : Nat) (receipts : List Receipt) :
    (endings time receipts).filterMap (·.2.datagram?) = receipts.filterMap Receipt.datagram? := by
  induction receipts generalizing time with
  | nil => rfl
  | cons x receipts ih =>
    cases x with
    | datagram wait data sender sending error =>
      exact congrArg ((data, sender) :: ·) (ih (time + wait + sending))
    | failure wait kind => exact ih (time + wait + failureRest)

theorem received_of_play (receipts : List Receipt) (hwait : r.wait = .datagram)
    (hall : ∀ e ∈ endings r.time receipts, e.1 ≤ horizon) :
    received (play none horizon r (endings r.time receipts)).turns =
      receipts.filterMap Receipt.datagram? := by
  have hdatagrams := datagrams_of_endings r.time receipts
  rw [← play_endings receipts hwait hall, List.filterMap_map] at hdatagrams
  exact hdatagrams

/-- Whatever is received and whenever, however sending ends, and whenever the signal fires: what is
sent is one reply for each datagram received, in their order and each to its sender. The reply is a
function of the first 2048 octets of the datagram alone, and reads as an object of their hash and
of the node's name and endpoint. A failed receive has no reply, and 100 milliseconds pass before
the next one begins; the loop ends only when the signal has fired. Every script of receipts is run
so, and without a signal every datagram of it is received. -/
theorem datagrams_answered_once (name endpoint : String) (stop : Option Nat) :
    (∀ ts r, Turns stop { name, endpoint } ts r →
      sent ts = (received ts).map (fun q => ((reply name endpoint q.1).text, q.2)) ∧
      (∀ before t after kind, ts = before ++ t :: after → t.ending = .failed kind →
        t.act = .rest ∧ ∀ u ∈ after, u.act = .receive → t.time + 100 ≤ u.time) ∧
      (r.wait = .nothing → ∃ s, stop = some s ∧ s ≤ r.time)) ∧
    (∀ data, Json.parse (utf8 (reply name endpoint data).text) = .ok (.obj [("ext", .str endpoint),
      ("key", .str (asciiText (Base64.encode (Hash.sha256 (data.take 2048))))),
      ("name", .str name)])) ∧
    ∀ receipts horizon,
      (run name endpoint receipts stop horizon).MadeFrom stop { name, endpoint } ∧
      ((∀ e ∈ endings 0 receipts, e.1 ≤ horizon) →
        received (run name endpoint receipts none horizon).turns =
          receipts.filterMap Receipt.datagram?) := by
  refine ⟨fun ts r hturns => ?_, fun data => ?_, fun receipts horizon => ⟨?_, ?_⟩⟩
  · have hresponses := hturns.responses (serves_start name endpoint)
    refine ⟨sent_of_responses hresponses, ?_, hturns.stop_fired nofun⟩
    rintro before t after kind rfl hfailed
    refine ⟨?_, hturns.rest_after_failure hfailed⟩
    rw [hresponses t (List.mem_append_right _ List.mem_cons_self), hfailed]
    rfl
  · rw [parse_reply, reply_eq]
    rfl
  · exact play_made stop horizon (endings 0 receipts) { name, endpoint }
  · exact received_of_play (r := { name, endpoint }) receipts rfl

/-- A receive that fails, and then a datagram whose reply cannot be sent. -/
def shakyReceipts : List Receipt :=
  [.failure 5 "ConnectionReset",
    .datagram 0 (utf8 "one") ⟨.v4 192 168 1 5, 40000⟩ 2 (some "NetworkUnreachable")]

theorem shakyReceipts_answered :
    let turns := (run "attic" "h:1" shakyReceipts (some 300) 60000).turns
    sent turns = [((reply "attic" "h:1" (utf8 "one")).text, ⟨.v4 192 168 1 5, 40000⟩)] ∧
      (∀ u ∈ turns.tail, u.act = .receive → 105 ≤ u.time) ∧
      (∃ r, Turns (some 300) { name := "attic", endpoint := "h:1" } turns r ∧ r.wait = .nothing ∧
        ∃ s, some 300 = some s ∧ s ≤ r.time) ∧
      received (run "attic" "h:1" shakyReceipts none 60000).turns =
        [(utf8 "one", ⟨.v4 192 168 1 5, 40000⟩)] := by
  intro turns
  obtain ⟨hall, -, hruns⟩ := datagrams_answered_once "attic" "h:1" (some 300)
  obtain ⟨⟨r, hturns, hend⟩, hreceived⟩ := hruns shakyReceipts 60000
  obtain ⟨hsent, hrest, hstop⟩ := hall turns r hturns
  have hone : received turns = [(utf8 "one", ⟨.v4 192 168 1 5, 40000⟩)] := by decide +kernel
  have hnothing : r.wait = .nothing := hend (by decide +kernel)
  refine ⟨?_, ?_, ⟨r, hturns, hnothing, hstop hnothing⟩, hreceived (by decide)⟩
  · rw [hsent, hone]
    rfl
  · exact (hrest [] ⟨5, .failed "ConnectionReset", .rest⟩ turns.tail "ConnectionReset" rfl rfl).2

end DeviceGateway.Discovery
