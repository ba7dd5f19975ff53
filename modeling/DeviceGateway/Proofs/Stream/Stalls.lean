import DeviceGateway.Stream.Deadline

/-
  Deadlines measure stalls. A stream under deadlines polls its transport just as it is polled
  itself, and hands on whatever is ready; so octets come and go as they would without deadlines. A
  stall is a stretch of pending polls in one direction. A poll that is found pending runs out of
  time when its stall has lasted for the limit of the operation that began it (`guardAll_due`), and
  what is polled in the other direction makes no difference (`guardAll_filter`). Without a shutdown
  all operations in a direction have one limit (`due_of_ne`).
-/

namespace DeviceGateway.Stream

variable {σ α β : Type}

/-! ## Streams over any transport -/

/-- A poll: the operation that is asked for, the time, and what is handed to the transport (room for
octets, or octets in one piece or in several). -/
structure Ask (β : Type) where
  op : Operation
  now : Nat
  load : β

/-- What a transport becomes when it is polled, and what it answers. -/
abbrev Answering (σ β α : Type) := σ → Ask β → σ × Poll α

/-- A poll that the transport has answered. -/
structure Posed (α : Type) where
  op : Operation
  now : Nat
  answer : Poll α

/-- A poll with what has come of it under the deadlines. -/
structure Polled (α : Type) extends Posed α where
  result : Guarded α

/-- The transport after polls without deadlines, and its answers. -/
def bare (transport : Answering σ β α) : σ → List (Ask β) → σ × List (Posed α)
  | s, [] => (s, [])
  | s, a :: asks =>
    let (s', answer) := transport s a
    let (last, posed) := bare transport s' asks
    (last, { op := a.op, now := a.now, answer } :: posed)

/-- A stream under deadlines. -/
structure Deadlined (σ : Type) where
  inner : σ
  timers : Timers := {}

/-- The stream after polls, and what has come of each. -/
def Deadlined.run (transport : Answering σ β α) (limits : Limits) :
    Deadlined σ → List (Ask β) → Deadlined σ × List (Polled α)
  | s, [] => (s, [])
  | s, a :: asks =>
    let (inner, answer) := transport s.inner a
    let (timers, result) := guard limits s.timers a.op a.now answer
    let (last, polled) := run transport limits { inner, timers } asks
    (last, { op := a.op, now := a.now, answer, result } :: polled)

/-- What comes of answered polls. -/
def guardAll (limits : Limits) : Timers → List (Posed α) → List (Polled α)
  | _, [] => []
  | t, p :: posed =>
    { p with result := (guard limits t p.op p.now p.answer).2 } ::
      guardAll limits (guard limits t p.op p.now p.answer).1 posed

/-- A transport is polled alike with deadlines and without. -/
theorem run_bare (transport : Answering σ β α) (limits : Limits) (s : Deadlined σ)
    (asks : List (Ask β)) :
    (s.run transport limits asks).1.inner = (bare transport s.inner asks).1 ∧
      (s.run transport limits asks).2 =
        guardAll limits s.timers (bare transport s.inner asks).2 := by
  induction asks generalizing s with
  | nil => exact ⟨rfl, rfl⟩
  | cons a asks ih =>
    obtain ⟨hinner, hpolled⟩ := ih {
      inner := (transport s.inner a).1
      timers := (guard limits s.timers a.op a.now (transport s.inner a).2).1 }
    exact ⟨hinner, congrArg (_ :: ·) hpolled⟩

theorem ops_bare (transport : Answering σ β α) (inner : σ) (asks : List (Ask β)) :
    (bare transport inner asks).2.map (·.op) = asks.map (·.op) := by
  induction asks generalizing inner with
  | nil => rfl
  | cons a asks ih => exact congrArg (a.op :: ·) (ih _)

theorem guardAll_posed (limits : Limits) (t : Timers) (posed : List (Posed α)) :
    (guardAll limits t posed).map Polled.toPosed = posed := by
  induction posed generalizing t with
  | nil => rfl
  | cons p posed ih => exact congrArg (p :: ·) (ih _)

/-! ## Stalls -/

/-- Do two operations go in one direction? Writes, flushes and the shutdown do. -/
def Operation.isAlong (a b : Operation) : Bool := decide (a = .read) == decide (b = .read)

/-- Is nothing there yet? -/
def Guarded.isPending : Guarded α → Bool
  | .pending => true
  | _ => false

/-- The stall that is under way in the direction of an operation after polls, latest poll first: all
polls in this direction since one of them was answered or ran out of time. -/
def stall (op : Operation) (polls : List (Polled α)) : List (Polled α) :=
  (polls.filter (·.op.isAlong op)).reverse.takeWhile (·.result.isPending)

/-- Since when an operation is pending that is found pending now, after polls. -/
def since (op : Operation) (now : Nat) (polls : List (Polled α)) : Nat :=
  ((stall op polls).getLast?.map (·.now)).getD now

variable {limits : Limits} {t : Timers} {op : Operation} {polls : List (Polled α)} {p : Polled α}

/-- A poll ends the stall of its direction or goes on with it, and leaves the other one alone. -/
theorem stall_append (op : Operation) (polls : List (Polled α)) (p : Polled α) :
    stall op (polls ++ [p]) =
      if p.op.isAlong op then if p.result.isPending then p :: stall op polls else []
      else stall op polls := by
  unfold stall
  rw [List.filter_append, List.reverse_append]
  cases h : p.op.isAlong op with
  | false => rw [List.filter_cons_of_neg (by rw [h]; decide)]; rfl
  | true =>
    rw [List.filter_cons_of_pos (by exact h), List.filter_nil, List.reverse_singleton,
      List.singleton_append, List.takeWhile_cons]
    rfl

/-! ## Timers -/

theorem get_set (a op : Operation) (t : Timers) (deadline : Option Nat) :
    (t.set a deadline).get op = if a.isAlong op then deadline else t.get op := by
  cases a <;> cases op <;> rfl

/-- When an operation that is found pending now runs out of time, after polls: when its stall has
lasted for the limit of the operation that began it. -/
def due (limits : Limits) (op : Operation) (now : Nat) (polls : List (Polled α)) : Nat :=
  ((stall op polls).getLast?.map fun q => q.now + limits.of q.op).getD (now + limits.of op)

/-- Does the timer of each direction run out when its stall has lasted for the limit of the
operation that began it? -/
def Armed (limits : Limits) (polls : List (Polled α)) (t : Timers) : Prop :=
  ∀ op, t.get op = (stall op polls).getLast?.map fun q => q.now + limits.of q.op

theorem armed_nil (limits : Limits) : Armed limits ([] : List (Polled α)) {} := by
  intro op
  cases op <;> rfl

/-- The polls of a stall are the same for all operations in its direction. -/
theorem stall_along {a b : Operation} (h : a.isAlong b = true) (polls : List (Polled α)) :
    stall a polls = stall b polls := by
  unfold stall Operation.isAlong
  rw [eq_of_beq h]

/-- Operations in one direction have one timer. -/
theorem get_along {a b : Operation} (h : a.isAlong b = true) (t : Timers) : t.get a = t.get b := by
  cases a <;> cases b <;> simp_all [Operation.isAlong, Timers.get]

/-- The deadline of a poll that is found pending. -/
theorem Armed.deadline (h : Armed limits polls t) (op : Operation) (now : Nat) :
    (t.get op).getD (now + limits.of op) = due limits op now polls := by
  rw [h op]
  rfl

/-- A poll makes no difference to the timer of the other direction. -/
theorem guard_other {q : Posed α} (h : q.op.isAlong op = false) :
    (guard limits t q.op q.now q.answer).1.get op = t.get op := by
  have hset : ∀ deadline, (t.set q.op deadline).get op = t.get op := by
    intro deadline
    rw [get_set, h, if_neg Bool.false_ne_true]
  unfold guard
  cases q.answer with
  | ready a => exact hset none
  | pending =>
    dsimp only
    split <;> exact hset _

/-- What comes of one poll: an answer is handed on, and a poll that is found pending runs out of
time when it is due to. -/
theorem guard_times (h : Armed limits polls t) (q : Posed α) :
    (guard limits t q.op q.now q.answer).2 = match q.answer with
      | .ready a => .ready a
      | .pending => if due limits q.op q.now polls ≤ q.now then .timedOut else .pending := by
  unfold guard
  cases q.answer with
  | ready a => rfl
  | pending =>
    dsimp only
    rw [h.deadline]
    split <;> rfl

/-- The timers after a poll run out when the stalls after it are due to. -/
theorem Armed.guard (h : Armed limits polls t) (q : Posed α) :
    Armed limits
      (polls ++ [{ q with result := (Stream.guard limits t q.op q.now q.answer).2 }])
      (Stream.guard limits t q.op q.now q.answer).1 := by
  intro op
  rw [stall_append]
  cases halong : q.op.isAlong op with
  | false =>
    rw [guard_other halong, h op]
    rfl
  | true =>
    unfold Stream.guard
    cases q.answer with
    | ready a => exact (get_set q.op op t none).trans (if_pos halong)
    | pending =>
      dsimp only
      rw [h.deadline]
      split
      · exact (get_set q.op op t none).trans (if_pos halong)
      · refine ((get_set q.op op t _).trans (if_pos halong)).trans ?_
        show some (due limits q.op q.now polls) =
          (_ :: stall op polls).getLast?.map fun q => q.now + limits.of q.op
        rw [List.getLast?_cons]
        unfold due
        rw [stall_along halong]
        cases (stall op polls).getLast? <;> rfl

/-! ## Runs -/

/-- What comes of the polls of a run, one after another. -/
theorem guardAll_due (h : Armed limits polls t) {posed : List (Posed α)}
    {before after : List (Polled α)} (hsplit : guardAll limits t posed = before ++ p :: after) :
    p.result = match p.answer with
      | .ready a => .ready a
      | .pending =>
        if due limits p.op p.now (polls ++ before) ≤ p.now then .timedOut else .pending := by
  induction posed generalizing polls t before with
  | nil =>
    rw [guardAll] at hsplit
    cases before <;> cases hsplit
  | cons q posed ih =>
    rw [guardAll] at hsplit
    cases before with
    | nil =>
      obtain ⟨rfl, -⟩ := List.cons.inj hsplit
      rw [List.append_nil]
      exact guard_times h q
    | cons b before =>
      obtain ⟨rfl, htail⟩ := List.cons.inj hsplit
      have hrest := ih (h.guard q) htail
      rw [List.append_assoc, List.singleton_append] at hrest
      exact hrest

/-! ### Without a shutdown -/

/-- Operations in one direction have one limit, the shutdown left out. -/
theorem limit_along {a b : Operation} (h : a.isAlong b = true) (ha : a ≠ .shutdown)
    (hb : b ≠ .shutdown) : limits.of a = limits.of b := by
  cases a <;> cases b <;> simp_all [Operation.isAlong, Limits.of]

theorem of_mem_stall {q : Polled α} (h : q ∈ stall op polls) :
    q ∈ polls ∧ q.op.isAlong op = true :=
  List.mem_filter.mp (List.mem_reverse.mp ((List.takeWhile_sublist _).mem h))

/-- Without a shutdown, it makes no difference which operation began a stall. -/
theorem due_of_ne (hop : op ≠ .shutdown) (now : Nat) (hpolls : ∀ q ∈ polls, q.op ≠ .shutdown) :
    due limits op now polls = since op now polls + limits.of op := by
  unfold due since
  cases hfirst : (stall op polls).getLast? with
  | none => rfl
  | some q =>
    obtain ⟨hmem, halong⟩ := of_mem_stall (List.mem_of_getLast? hfirst)
    exact congrArg (q.now + ·) (limit_along halong (hpolls q hmem) hop)

/-- Polls without a shutdown, and the timers that they leave. -/
structure Timed (limits : Limits) (polls : List (Polled α)) (t : Timers) : Prop where
  noShutdown : ∀ q ∈ polls, q.op ≠ .shutdown
  armed : Armed limits polls t

theorem timed_nil (limits : Limits) : Timed limits ([] : List (Polled α)) {} :=
  ⟨fun _ h => (List.not_mem_nil h).elim, armed_nil limits⟩

/-- What comes of the polls of a run without a shutdown: each stall lasts for the limit of whatever
is polled in its direction. -/
theorem guardAll_times (h : Timed limits polls t) {posed : List (Posed α)}
    (hposed : ∀ q ∈ posed, q.op ≠ .shutdown) {before : List (Polled α)} {after : List (Polled α)}
    (hsplit : guardAll limits t posed = before ++ p :: after) :
    p.result = match p.answer with
      | .ready a => .ready a
      | .pending =>
        if since p.op p.now (polls ++ before) + limits.of p.op ≤ p.now then .timedOut
        else .pending := by
  have hops : ∀ q ∈ before ++ p :: after, q.op ≠ .shutdown := by
    intro q hq
    have hmem := List.mem_map_of_mem (f := Polled.toPosed) hq
    rw [← hsplit, guardAll_posed] at hmem
    exact hposed _ hmem
  obtain ⟨hbefore, hlater⟩ := List.forall_mem_append.mp hops
  rw [guardAll_due h.armed hsplit, due_of_ne (List.forall_mem_cons.mp hlater).1 p.now
    (List.forall_mem_append.mpr ⟨h.noShutdown, hbefore⟩)]

/-! ### Each direction by itself -/

/-- What comes of a poll hangs on the timer of its direction alone. -/
theorem guard_congr (limits : Limits) {q : Posed α} {t t' : Timers}
    (halong : q.op.isAlong op = true) (h : t.get op = t'.get op) :
    (guard limits t q.op q.now q.answer).2 = (guard limits t' q.op q.now q.answer).2 ∧
      (guard limits t q.op q.now q.answer).1.get op =
        (guard limits t' q.op q.now q.answer).1.get op := by
  have hget : t.get q.op = t'.get q.op := by
    rw [get_along halong, get_along halong, h]
  unfold guard
  cases q.answer with
  | ready a =>
    dsimp only
    rw [get_set, get_set, if_pos halong, if_pos halong]
    exact ⟨rfl, rfl⟩
  | pending =>
    dsimp only
    rw [hget]
    split <;>
    · dsimp only
      rw [get_set, get_set, if_pos halong, if_pos halong]
      exact ⟨rfl, rfl⟩

/-- The polls in one direction come out as they would if nothing was polled in the other one. -/
theorem guardAll_filter (op : Operation) {t t' : Timers} (h : t.get op = t'.get op)
    (posed : List (Posed α)) : (guardAll limits t posed).filter (·.op.isAlong op) =
      guardAll limits t' (posed.filter (·.op.isAlong op)) := by
  induction posed generalizing t t' with
  | nil => rfl
  | cons q posed ih =>
    rw [guardAll]
    cases halong : q.op.isAlong op with
    | false =>
      rw [List.filter_cons_of_neg (by simp [halong]), List.filter_cons_of_neg (by simp [halong])]
      exact ih ((guard_other halong).trans h)
    | true =>
      obtain ⟨hresult, htimers⟩ := guard_congr limits halong h
      rw [List.filter_cons_of_pos (by exact halong), List.filter_cons_of_pos (by exact halong),
        guardAll, ih htimers, hresult]

/-- A transport under deadlines is polled as it would be without them, and whatever it has ready, a
failure or not, comes out of the poll that got it and out of no other. A poll that is found pending
runs out of time just when it has been pending for the limit of its operation, counted from the
first pending poll of its direction since one of them was answered or ran out of time. And what
comes of the polls in one direction is the same in all streams whose transports answer these polls
alike. -/
theorem deadlines_measure_stalls (transport : Answering σ β α) (limits : Limits) (inner : σ)
    (asks : List (Ask β)) (hasks : ∀ a ∈ asks, a.op ≠ .shutdown) :
    let run := Deadlined.run transport limits { inner } asks
    run.1.inner = (bare transport inner asks).1 ∧
    run.2.map Polled.toPosed = (bare transport inner asks).2 ∧
    (∀ before p after, run.2 = before ++ p :: after →
      (∀ a, p.result = .ready a ↔ p.answer = .ready a) ∧
      (p.result = .timedOut ↔
        p.answer = .pending ∧ since p.op p.now before + limits.of p.op ≤ p.now)) ∧
    ∀ {τ γ : Type} (transport' : Answering τ γ α) (inner' : τ) (asks' : List (Ask γ))
      (op : Operation),
      let run' := Deadlined.run transport' limits { inner := inner' } asks'
      (run.2.map Polled.toPosed).filter (·.op.isAlong op) =
        (run'.2.map Polled.toPosed).filter (·.op.isAlong op) →
      run.2.filter (·.op.isAlong op) = run'.2.filter (·.op.isAlong op) := by
  intro run
  obtain ⟨hinner, hpolled⟩ := run_bare transport limits { inner } asks
  have hposed : run.2.map Polled.toPosed = (bare transport inner asks).2 := by
    rw [hpolled, guardAll_posed]
  refine ⟨hinner, hposed, ?_, ?_⟩
  · intro before p after hsplit
    have hops : ∀ q ∈ (bare transport inner asks).2, q.op ≠ .shutdown := by
      intro q hq
      have hop := List.mem_map_of_mem (f := (·.op)) hq
      rw [ops_bare] at hop
      obtain ⟨a, ha, heq⟩ := List.mem_map.mp hop
      exact heq ▸ hasks a ha
    have hresult := guardAll_times (timed_nil limits) hops (hpolled.symm.trans hsplit)
    rw [List.nil_append] at hresult
    rw [hresult]
    cases p.answer with
    | ready a => simp
    | pending =>
      dsimp only
      split
      · next hlate => simp [hlate]
      · next hearly => simp [hearly]
  · intro τ γ transport' inner' asks' op run' hsame
    obtain ⟨-, hpolled'⟩ := run_bare transport' limits { inner := inner' } asks'
    rw [hposed, hpolled', guardAll_posed] at hsame
    rw [hpolled, hpolled', guardAll_filter op rfl, guardAll_filter op rfl, hsame]

/-- A transport with its answers in a list. -/
def scripted : Answering (List (Poll Nat)) Unit Nat
  | [], _ => ([], .ready 0)
  | answer :: rest, _ => (rest, answer)

/-- A read is pending for twelve units while a flush comes out, and a write for ten since the flush
that was pending before it. -/
theorem scripted_stalls :
    let asks : List (Ask Unit) := [⟨.read, 0, ()⟩, ⟨.write, 5, ()⟩, ⟨.read, 11, ()⟩,
      ⟨.flush, 11, ()⟩, ⟨.flush, 12, ()⟩, ⟨.read, 12, ()⟩, ⟨.write, 22, ()⟩]
    let limits : Limits := { read := 12, write := 10, shutdown := 1 }
    let inner : List (Poll Nat) :=
      [.pending, .pending, .pending, .ready 7, .pending, .pending, .pending]
    let run := Deadlined.run scripted limits { inner } asks
    (∀ a ∈ asks, a.op ≠ .shutdown) ∧
    ∃ before read write, run.2 = before ++ [read, write] ∧
      (read.op, read.now, read.result) = (.read, 12, .timedOut) ∧
      (write.op, write.now, write.result) = (.write, 22, .timedOut) ∧
      ∀ p ∈ before, p.result ≠ .timedOut := by
  intro asks limits inner run
  have hasks : ∀ a ∈ asks, a.op ≠ .shutdown := by decide
  obtain ⟨-, -, htimes, -⟩ := deadlines_measure_stalls scripted limits inner asks hasks
  have hread := (htimes (run.2.take 5) _ (run.2.drop 6) rfl).2.mpr ⟨rfl, by decide⟩
  have hwrite := (htimes (run.2.take 6) _ [] rfl).2.mpr ⟨rfl, by decide⟩
  exact ⟨hasks, run.2.take 5, _, _, rfl, congrArg (fun r => (_, _, r)) hread,
    congrArg (fun r => (_, _, r)) hwrite, by decide⟩

end DeviceGateway.Stream
