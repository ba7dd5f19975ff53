import DeviceGateway.Proofs.Channel.Lone

/-
  What the task of a lone client has heard. The requests dispatched are those that the client has
  made up to where its task has read, and a task that has ended to serve has met with an item that
  calls for it (`Input`). Together with what it has written, every happening keeps this
  (`attends_perform`).
-/

open DeviceGateway.Stream (Pipe Poll)

namespace DeviceGateway.Channel

open Sent

/-- Does a channel that ends so end without a close frame of the gateway's? -/
def Inbound.isSilent (i : Inbound) : Bool := i = .hungUp || i = .message .close

namespace Course

/-- Is `item` what the client said after `done`? -/
def Met (c : Course) (done : List Inbound) (item : Inbound) : Prop :=
  (item = .hungUp ∧ c.pipe.ended = true ∧ ({ buffer := c.heard } : Receiver).said = done) ∨
    ∀ more, done ++ [item] <+: ({ buffer := c.heard ++ more } : Receiver).said

/-- Does the task, in this stage and with this framing, end the channel as `item` calls for? -/
def Ends (stage : Stage) (isOpen : Bool) (frames : List Sent) (item : Inbound) : Prop :=
  match stage with
  | .left e => item.exit? = some e ∧ isOpen = !item.isSilent
  | _ => item.isSilent = true ∨
    ∃ why, item.exit? = some (.close (.refused why)) ∧
      frames.getLast? = some (.close (.refused why))

/-- The task has taken in `done`, has dispatched the requests of it, and will read on behind it or
has met with what ends the channel. -/
structure Input (owner : Principal) (c : Course) (frames : List Sent) (done : List Inbound) :
    Prop where
  calm : ∀ i ∈ done, i.exit? = none
  requests_eq : Inbound.requests done = c.dispatched owner
  hears : c.task.stage.isOpen = true → c.task.wire.isOpen = true ∧
    ∀ more, ({ buffer := c.heard ++ more } : Receiver).said =
      done ++ (c.task.wire.receiver.push (c.pipe.incoming ++ more)).said
  met : c.task.stage.isOpen = false → ∃ item, c.Met done item ∧ item.exit?.isSome = true ∧
    Ends c.task.stage c.task.wire.isOpen frames item

/-- What holds of the task of a lone client: see `Output`, `Kept` and `Input`. -/
def Attends (commands : CommandTable Home) (owner : Principal) (base : Bytes) (c : Course) : Prop :=
  ∃ frames done, Output base c frames ∧ Kept commands owner c ∧ Input owner c frames done

variable {commands : CommandTable Home} {owner : Principal} {base : Bytes}
  {frames frames' : List Sent} {done : List Inbound} {c : Course} {m : Moment} {s : Session}
  {taken : Taken}

/-! ## Input -/

theorem dispatched_after (owner : Principal) (c : Course) {taken : Taken}
    (hid : taken.task.session = c.task.session) :
    (c.after taken).dispatched owner = c.dispatched owner ++
      (exchangesOf owner c.task.session [(c.home, taken.deed)]).map (·.call.request) := by
  unfold dispatched
  rw [exchanges_after owner c hid, List.map_append]

/-- A step that meets with an item which ends the channel. -/
theorem Input.leave (hi : Input owner c frames done) (hid : taken.task.session = c.task.session)
    {item : Inbound} {e : Exit}
    (hafter : taken.task.stage = .left e) (hexit : item.exit? = some e)
    (hnone : exchangesOf owner c.task.session [(c.home, taken.deed)] = [])
    (hopen : taken.task.wire.isOpen = !item.isSilent) (hmet : (c.after taken).Met done item) :
    Input owner (c.after taken) frames' done := by
  refine ⟨hi.calm, ?_, ?_, ?_⟩
  · rw [dispatched_after owner c hid, hnone, List.map_nil, List.append_nil]
    exact hi.requests_eq
  · intro h
    have hclosed : (Stage.left e).isOpen = true := hafter ▸ h
    cases hclosed
  · intro _
    refine ⟨item, hmet, by rw [hexit]; rfl, ?_⟩
    show Ends taken.task.stage taken.task.wire.isOpen frames' item
    rw [hafter]
    exact ⟨hexit, hopen⟩

/-- A step of a task that has ended to serve. -/
theorem Input.shut (hi : Input owner c frames done) (hid : taken.task.session = c.task.session)
    (hbefore : c.task.stage.isOpen = false) (hafter : taken.task.stage.isOpen = false)
    (hnone : exchangesOf owner c.task.session [(c.home, taken.deed)] = [])
    (hended : taken.pipe.ended = c.pipe.ended)
    (hends : ∀ item, Ends c.task.stage c.task.wire.isOpen frames item →
      Ends taken.task.stage taken.task.wire.isOpen frames' item) :
    Input owner (c.after taken) frames' done := by
  refine ⟨hi.calm, ?_, ?_, ?_⟩
  · rw [dispatched_after owner c hid, hnone, List.map_nil, List.append_nil]
    exact hi.requests_eq
  · intro h
    cases hafter.symm.trans h
  · intro _
    obtain ⟨item, hmet, hexit, hend⟩ := hi.met hbefore
    refine ⟨item, ?_, hexit, hends item hend⟩
    rcases hmet with ⟨hitem, hhung, hsaid⟩ | hmet
    · exact Or.inl ⟨hitem, hended.trans hhung, hsaid⟩
    · exact Or.inr hmet

end Course

end DeviceGateway.Channel
