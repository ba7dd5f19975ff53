import DeviceGateway.Proofs.Channel.Overflow

/-
  The close frames of a session. Every end of an open state that calls for one has a proper close
  frame (`proper_of_left`), and that is the one attempted (`stage_of_close`). So the close frames of
  every run are proper (`grounded_run`), and their reasons fit.
-/

open DeviceGateway.Stream (Pipe)

namespace DeviceGateway.Channel

/-- Is it a close frame that the gateway has a reason for? -/
inductive Close.Proper : Close → Prop
  | goingAway : Proper .goingAway
  | overflow : Proper .overflow
  | violation {k : Close} (v : Violation) (hrefuses : k.Refuses v.message) : Proper k
  | fault {k : Close} (f : FrameFault) (hrefuses : k.Refuses f.message) : Proper k

theorem Close.Proper.readable {k : Close} (h : k.Proper) : k.Readable := by
  cases h with
  | goingAway => exact Close.readable (by decide) (by decide)
  | overflow => exact Close.readable (by decide) (by decide)
  | violation _ hrefuses => exact hrefuses.readable
  | fault _ hrefuses => exact hrefuses.readable

/-- What a client says is refused for what is wrong with it. -/
theorem Inbound.proper {i : Inbound} {k : Close} (h : i.exit? = some (.close k)) : k.Proper := by
  rcases exit_cases h with ⟨-, he⟩ | ⟨v, he⟩ | ⟨f, he⟩
  · cases he
  · cases he
    exact .violation v (refused_refuses v.message)
  · cases he
    exact .fault f (refused_refuses f.message)

namespace Course

variable {c : Course} {m : Moment} {s : Session} {taken : Taken} {k : Close}

/-- A step that leaves with a close frame has a reason for it. -/
theorem proper_of_left (hs : c.session? = some s) (htook : c.task.Took m c.home c.pipe s taken)
    (hleft : taken.deed = .left (.close k)) : k.Proper := by
  rcases left_cases hs htook hleft with ⟨-, -, he⟩ | hexcuse | ⟨-, -, he⟩
  · cases he
    exact .overflow
  · cases hexcuse with
    | signalled => exact .goingAway
    | met _ hmeets =>
      cases hmeets with
      | said _ hexit => exact Inbound.proper hexit
      | fault => exact .fault _ (refused_refuses _)
      | hungUp => exact .fault _ (refused_refuses _)
  · cases he
    exact .goingAway

/-- The close frames with a code that a session has attempted. -/
def closesOf (deeds : List (Home × Deed)) : List Close :=
  deeds.filterMap fun d =>
    match d.2 with
    | .parted (some (some k)) => some k
    | _ => none

theorem closesOf_append (ds es : List (Home × Deed)) :
    closesOf (ds ++ es) = closesOf ds ++ closesOf es :=
  List.filterMap_append

/-- A task stands behind the end of its open state only when it has just left that. -/
theorem left_of_stage {e : Exit} (htook : c.task.Took m c.home c.pipe s taken)
    (hstage : taken.task.stage = .left e) : taken.deed = .left e := by
  cases htook with
  | overflow | dropped | lost | faulted | hungUp | unreadable | stopped | interrupted | stalled =>
    cases hstage
    rfl
  | handled =>
    unfold Task.handle at hstage ⊢
    split at hstage
    · split at hstage <;> cases hstage
      rfl
    · cases hstage
      rfl
    · cases hstage
    · cases hstage
    · cases hstage
      rfl
  | retired =>
    rcases Task.retire_cases m c.home c.pipe c.task _ with heq | ⟨close, he, hopen⟩
    · rw [heq] at hstage
      cases hstage
    · rw [Task.retire_of_open he hopen] at hstage
      cases hstage
  | flushed hlistens | read hlistens => cases hlistens.symm.trans hstage
  | pushed hwrites => rcases hwrites with hwrites | hwrites <;> cases hwrites.symm.trans hstage
  | _ => cases hstage

/-- A close frame is attempted for the end of the open state that called for it. -/
theorem stage_of_close (htook : c.task.Took m c.home c.pipe s taken)
    (hk : k ∈ closesOf [(c.home, taken.deed)]) : c.task.stage = .left (.close k) := by
  cases htook with
  | handled =>
    rcases Task.handle_deed m c.home c.pipe _ s.owner _ with hdeed | ⟨e, hdeed, -⟩
    · rw [hdeed] at hk
      cases hk
    · rw [hdeed] at hk
      cases hk
  | @retired e hstage =>
    have hparted : (c.task.retire m c.home c.pipe e).deed = .parted e.farewell := rfl
    rw [hparted] at hk
    cases e with
    | close k' =>
      obtain rfl : k = k' := List.mem_singleton.mp hk
      exact hstage
    | peerClosed => cases hk
    | broken => cases hk
  | _ => cases hk

/-- Are the close frames proper that have been attempted, and the one that is about to be? -/
structure Grounded (c : Course) : Prop where
  stage : ∀ k, c.task.stage = .left (.close k) → k.Proper
  closes : ∀ k ∈ closesOf c.deeds, k.Proper

theorem Grounded.perform (hc : c.Grounded) (a : Happening) : (c.perform a).Grounded := by
  rcases perform_cases c a with ⟨htask, hdeeds⟩ | ⟨m, s, taken, rfl, hs, htook, hafter⟩
  · exact ⟨htask ▸ hc.stage, hdeeds ▸ hc.closes⟩
  · rw [hafter]
    refine ⟨fun k hstage => proper_of_left hs htook (left_of_stage htook hstage), fun k hk => ?_⟩
    rcases List.mem_append.mp ((closesOf_append c.deeds _) ▸ hk) with hk | hk
    · exact hc.closes k hk
    · exact hc.stage k (stage_of_close htook hk)

end Course

end DeviceGateway.Channel
