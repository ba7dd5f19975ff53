import DeviceGateway.Proofs.Stream.Stalls

/-
  How long a shutdown may stall. It shares its timer with writes and flushes, whose limit is another
  one. A shutdown that is polled while a write is pending runs out of time when the write would, and
  a flush that completes in between gives it all its time anew; either way it is not the time since
  the shutdown was first found pending that counts (`shared_timer`). It is when the shutdown is
  alone in its direction (`shutdown_deadline`).
-/

namespace DeviceGateway.Stream

variable {σ α β : Type} {limits : Limits}

/-- The stall of the shutdown by itself: all polls of it since one of them was answered or ran out
of time, whatever else was polled. -/
def shutdownStall (polls : List (Polled α)) : List (Polled α) :=
  (polls.filter (·.op = .shutdown)).reverse.takeWhile (·.result.isPending)

/-- Since when the shutdown is pending that is found pending now, after polls. -/
def shutdownSince (now : Nat) (polls : List (Polled α)) : Nat :=
  ((shutdownStall polls).getLast?.map (·.now)).getD now

/-- Is the stall of the shutdown all that is under way in its direction, and did nothing else there
end one since it began? -/
def ShutdownAlone (polls : List (Polled α)) : Prop := stall .shutdown polls = shutdownStall polls

theorem op_of_mem_shutdownStall {q : Polled α} {polls : List (Polled α)}
    (h : q ∈ shutdownStall polls) : q.op = .shutdown := by
  have hmem := List.mem_reverse.mp ((List.takeWhile_sublist _).mem h)
  exact of_decide_eq_true (List.mem_filter.mp hmem).2

/-- A shutdown that is alone in its direction has its own limit since it was first found pending. -/
theorem due_of_alone {polls : List (Polled α)} (h : ShutdownAlone polls) (now : Nat) :
    due limits .shutdown now polls = shutdownSince now polls + limits.shutdown := by
  unfold due shutdownSince
  rw [show stall .shutdown polls = shutdownStall polls from h]
  cases hfirst : (shutdownStall polls).getLast? with
  | none => rfl
  | some q =>
    have hop := op_of_mem_shutdownStall (List.mem_of_getLast? hfirst)
    show q.now + limits.of q.op = q.now + limits.shutdown
    rw [hop]
    rfl

/-- Whatever is polled, and whatever the transport answers: a shutdown that is found pending runs
out of time just when the stall of its direction has lasted for the limit of the operation that
began it, be it a write, a flush or the shutdown. So it has its own deadline, counted from when it
was first found pending, when it is alone in its direction; reads make no difference. -/
theorem shutdown_deadline (transport : Answering σ β α) (limits : Limits) (inner : σ)
    (asks : List (Ask β)) :
    let run := Deadlined.run transport limits { inner } asks
    ∀ before p after, run.2 = before ++ p :: after → p.op = .shutdown → p.answer = .pending →
      (p.result = .timedOut ↔ due limits .shutdown p.now before ≤ p.now) ∧
      (ShutdownAlone before →
        (p.result = .timedOut ↔ shutdownSince p.now before + limits.shutdown ≤ p.now)) := by
  intro run before p after hsplit hop hpending
  obtain ⟨-, hpolled⟩ := run_bare transport limits { inner } asks
  have hresult := guardAll_due (armed_nil limits) (hpolled.symm.trans hsplit)
  rw [hop, hpending, List.nil_append] at hresult
  have hdue : p.result = .timedOut ↔ due limits .shutdown p.now before ≤ p.now := by
    rw [hresult]
    dsimp only
    split
    · next hlate => simp [hlate]
    · next hearly => simp [hearly]
  refine ⟨hdue, fun halone => ?_⟩
  rw [hdue, due_of_alone halone]

/-- A shutdown that is alone runs out of time six units after it was first found pending, with a
read that is pending before it and one in between. -/
theorem aloneShutdown_deadline :
    let asks : List (Ask Unit) :=
      [⟨.read, 0, ()⟩, ⟨.shutdown, 2, ()⟩, ⟨.read, 5, ()⟩, ⟨.shutdown, 8, ()⟩]
    let limits : Limits := { read := 12, write := 12, shutdown := 6 }
    let run := Deadlined.run scripted limits { inner := List.replicate 4 .pending } asks
    ∃ before p, run.2 = before ++ [p] ∧ p.op = .shutdown ∧ p.answer = .pending ∧
      ShutdownAlone before ∧ shutdownSince p.now before = 2 ∧ p.now = 8 ∧ p.result = .timedOut := by
  intro asks limits run
  have halone : ShutdownAlone (run.2.take 3) := rfl
  have hlaw := shutdown_deadline scripted limits (List.replicate 4 .pending) asks
    (run.2.take 3) _ [] rfl rfl rfl
  exact ⟨run.2.take 3, _, rfl, rfl, rfl, halone, by decide, rfl, (hlaw.2 halone).mpr (by decide)⟩

/-- A write that was given up takes a shutdown's time away: it is found pending at 11 and out of
time at 12. And a flush that completes gives it more: found pending at 0, it is not out of time at
6. -/
theorem shared_timer :
    let limits : Limits := { read := 12, write := 12, shutdown := 6 }
    let hastened := Deadlined.run (β := Unit) scripted limits
      { inner := [.pending, .pending, .pending] }
      [⟨.write, 0, ()⟩, ⟨.shutdown, 11, ()⟩, ⟨.shutdown, 12, ()⟩]
    let deferred := Deadlined.run (β := Unit) scripted limits
      { inner := [.pending, .ready 0, .pending] }
      [⟨.shutdown, 0, ()⟩, ⟨.flush, 5, ()⟩, ⟨.shutdown, 6, ()⟩]
    (∃ before p, hastened.2 = before ++ [p] ∧ p.op = .shutdown ∧ p.answer = .pending ∧
      p.result = .timedOut ∧ p.now < shutdownSince p.now before + limits.shutdown) ∧
    ∃ before p, deferred.2 = before ++ [p] ∧ p.op = .shutdown ∧ p.answer = .pending ∧
      p.result ≠ .timedOut ∧ shutdownSince p.now before + limits.shutdown ≤ p.now := by
  intro limits hastened deferred
  exact ⟨⟨hastened.2.take 2, _, rfl, rfl, rfl, rfl, by decide⟩,
    deferred.2.take 2, _, rfl, rfl, rfl, by decide, by decide⟩

end DeviceGateway.Stream
