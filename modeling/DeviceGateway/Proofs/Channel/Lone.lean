import DeviceGateway.Proofs.Channel.Exchange

/-
  A lone client: it reads what is written, nobody else sends to its session, and no signal stops the
  task. Then all that was handed to the framing goes out (`Output`), and the texts written, those in
  the queue and the answer at hand are, in this order, those due for the exchanges so far (`Kept`).
-/

open DeviceGateway.Stream (Pipe)

namespace DeviceGateway.Channel

open Sent

/-- What may happen around a lone client whose requests go to `commands`. -/
def Happening.Lone (commands : CommandTable Home) : Happening → Prop
  | .send _ => False
  | .network room faults gone _ => room = none ∧ faults = {} ∧ gone = false
  | .step m => m.stop = false ∧ m.commands = commands
  | _ => True

/-- The answer that a task is about to send. -/
def Stage.answer : Stage → List String
  | .answering answer => [answer]
  | _ => []

/-- Has the task found the queue empty, or done with it? -/
def Stage.looksAway : Stage → Bool
  | .listening | .left _ | .closing _ | .leaving _ | .ended => true
  | _ => false

/-- Does the task write nothing at present, and has ended to serve? -/
def Stage.isSettled : Stage → Bool
  | .left _ | .leaving _ | .ended => true
  | _ => false

namespace Course

/-- What is handed to the framing goes out, and all of it has when the task has settled. -/
structure Output (base : Bytes) (c : Course) (frames : List Sent) : Prop where
  reads : c.pipe.Reads
  octets_eq : c.written ++ c.task.wire.out = base ++ octetsOf frames
  texts_eq : textsOf frames = c.wrote
  pong_none : c.task.stage.isOpen = false → c.task.wire.pong = none
  out_nil : c.task.stage.isSettled = true → c.task.wire.out = []

/-- The texts due for the exchanges so far are those written, those in the queue, and the answer
at hand. -/
structure Kept (commands : CommandTable Home) (owner : Principal) (c : Course) : Prop where
  exists_session : ∃ s, c.session? = some s ∧ s.owner = owner ∧
    (c.task.stage.isOpen = true → s.state = .accepting ∧ s.listening = true)
  texts_eq : c.wrote ++ c.queue ++ c.task.stage.answer =
    (c.exchanges owner).flatMap (Exchange.texts commands)
  queue_nil : c.task.stage.looksAway = true → c.queue = []
  has_room : c.task.stage.answer ≠ [] → c.queue.length < outboundQueueLimit
  clear : ∀ e ∈ c.exchanges owner, e.Clear

variable {commands : CommandTable Home} {owner : Principal} {base : Bytes} {frames : List Sent}
  {c : Course} {m : Moment} {s : Session} {taken : Taken}

/-! ## Output -/

theorem Output.move (ho : Output base c frames) (gs : List Sent) (hreads : taken.pipe.Reads)
    (hoctets : c.received ++ taken.pipe.written ++ taken.task.wire.out =
      c.written ++ c.task.wire.out ++ octetsOf gs)
    (htexts : textsOf gs = wroteOf [(c.home, taken.deed)])
    (hpong : taken.task.stage.isOpen = false → taken.task.wire.pong = none)
    (hout : taken.task.stage.isSettled = true → taken.task.wire.out = []) :
    Output base (c.after taken) (frames ++ gs) := by
  refine ⟨hreads, ?_, ?_, hpong, hout⟩
  · show c.received ++ taken.pipe.written ++ taken.task.wire.out = _
    rw [hoctets, ho.octets_eq, octetsOf_append, List.append_assoc]
  · rw [wrote_after, textsOf_append, ho.texts_eq, htexts]

/-- A step that leaves alone what is written, and what waits to be. -/
theorem Output.still (ho : Output base c frames) (hreads : taken.pipe.Reads)
    (hpipe : taken.pipe.written = c.pipe.written) (hout : taken.task.wire.out = c.task.wire.out)
    (hwrote : wroteOf [(c.home, taken.deed)] = [])
    (hpong : taken.task.stage.isOpen = false → taken.task.wire.pong = none)
    (hnil : taken.task.stage.isSettled = true → taken.task.wire.out = []) :
    Output base (c.after taken) frames := by
  have hmoved := ho.move [] hreads (by rw [hpipe, hout]; exact (List.append_nil _).symm)
    hwrote.symm hpong hnil
  rwa [List.append_nil] at hmoved

/-- A step that flushes. -/
theorem Output.flush (ho : Output base c frames)
    (hpipe : taken.pipe = (c.task.wire.flush c.pipe).2.1)
    (hwire : taken.task.wire = (c.task.wire.flush c.pipe).1)
    (hwrote : wroteOf [(c.home, taken.deed)] = []) :
    Output base (c.after taken) (frames ++ c.task.wire.owed) := by
  obtain ⟨out, hflush⟩ := Wire.flush_of_reads ho.reads c.task.wire
  refine ho.move _ ?_ ?_ ?_ ?_ ?_
  · rw [hpipe, hflush]
    exact ho.reads
  · rw [hpipe, hwire, List.append_assoc, Wire.flush_written]
    simp [written]
  · rw [Wire.textsOf_owed, hwrote]
  · intro _
    rw [hwire, hflush]
  · intro _
    rw [hwire, hflush]

/-- A step that hands a frame over. -/
theorem Output.queue (ho : Output base c frames) (f : Sent) (hpipe : taken.pipe = c.pipe)
    (hwire : taken.task.wire.out = (c.task.wire.queue f.octets).out)
    (hpong : taken.task.wire.pong = none) (hsettled : taken.task.stage.isSettled = false)
    (hwrote : textsOf [f] = wroteOf [(c.home, taken.deed)]) :
    Output base (c.after taken) (frames ++ ([f] ++ c.task.wire.owed)) := by
  refine ho.move _ ?_ ?_ ?_ (fun _ => hpong) ?_
  · rw [hpipe]
    exact ho.reads
  · rw [hpipe, hwire, Wire.queue_out, octetsOf_append]
    simp [written, octetsOf]
  · rw [textsOf_append, Wire.textsOf_owed, List.append_nil, hwrote]
  · intro h
    rw [hsettled] at h
    cases h

/-! ## Queue -/

/-- Whose session it is, and that it accepts texts while it is open. -/
theorem Kept.session (hk : Kept commands owner c) (hs : c.session? = some s) : s.owner = owner ∧
    (c.task.stage.isOpen = true → s.state = .accepting ∧ s.listening = true) := by
  obtain ⟨s', hs', h⟩ := hk.exists_session
  cases hs.symm.trans hs'
  exact h

/-- A step that neither adds to the queue nor takes from it. -/
theorem Kept.still (hk : Kept commands owner c) (hs : c.session? = some s) {s' : Session}
    (hs' : taken.home.sessions.get? c.task.session = some s') (howner : s'.owner = s.owner)
    (hqueue : s'.queue = s.queue) (hid : taken.task.session = c.task.session)
    (hopen : taken.task.stage.isOpen = true → c.task.stage.isOpen = true ∧ s' = s)
    (hwrote : wroteOf [(c.home, taken.deed)] = [])
    (hnone : exchangesOf owner c.task.session [(c.home, taken.deed)] = [])
    (hanswer : taken.task.stage.answer = c.task.stage.answer)
    (haway : taken.task.stage.looksAway = true → s.queue = []) :
    Kept commands owner (c.after taken) := by
  obtain ⟨howned, haccepts⟩ := hk.session hs
  have hafter : (c.after taken).session? = some s' := by
    show taken.home.sessions.get? taken.task.session = some s'
    rw [hid]
    exact hs'
  have hsame : (c.after taken).queue = c.queue :=
    (queueOf_of_get? hafter).trans (hqueue.trans (queueOf_of_get? hs).symm)
  refine ⟨⟨s', hafter, howner.trans howned, ?_⟩, ?_, ?_, ?_, ?_⟩
  · intro h
    obtain ⟨hbefore, rfl⟩ := hopen h
    exact haccepts hbefore
  · rw [wrote_after, hwrote, List.append_nil, hsame, exchanges_after owner c hid, hnone,
      List.append_nil, ← hk.texts_eq]
    show c.wrote ++ c.queue ++ taken.task.stage.answer = _
    rw [hanswer]
  · intro h
    rw [hsame]
    exact (queueOf_of_get? hs).trans (haway h)
  · intro h
    rw [hsame]
    exact hk.has_room (hanswer ▸ h)
  · rw [exchanges_after owner c hid, hnone, List.append_nil]
    exact hk.clear

/-- The text at the front of the queue is handed to the framing. -/
theorem Kept.write (hk : Kept commands owner c) (hs : c.session? = some s) {text : String}
    {rest : List String} {wire : Wire} {deadline : Nat} (hstage : c.task.stage = .waiting)
    (hqueue : s.queue = text :: rest) :
    Kept commands owner (c.after
      { deed := .wrote text, home := c.task.popped c.home s rest, pipe := c.pipe
        task := { c.task with wire, stage := .writing deadline } }) := by
  obtain ⟨howned, haccepts⟩ := hk.session hs
  have hpopped := Sessions.get?_modify_self (fun _ => { s with queue := rest }) hs
  refine ⟨⟨_, hpopped, howned, fun _ => haccepts (by rw [hstage]; rfl)⟩, ?_,
    (fun h => by cases h), (fun h => absurd rfl h), ?_⟩
  rotate_left
  · rw [exchanges_after owner c rfl]
    exact (List.append_nil (c.exchanges owner)).symm ▸ hk.clear
  have htexts := hk.texts_eq
  unfold queue at htexts
  rw [queueOf_of_get? hs, hqueue, hstage] at htexts
  rw [wrote_after, exchanges_after owner c rfl]
  show c.wrote ++ [text] ++ queueOf (c.task.popped c.home s rest) c.task.session ++ [] =
    (c.exchanges owner ++ []).flatMap _
  rw [queueOf_of_get? hpopped, List.append_nil, List.append_nil, List.append_assoc]
  exact (List.append_nil _).symm.trans htexts

/-- A request is dispatched; the queue is empty. -/
theorem Kept.dispatch (hk : Kept commands owner c) (hs : c.session? = some s) {text : String}
    {request : Request} (hstage : c.task.stage = .listening)
    (hparse : Request.parse text = .ok request)
    (hdeed : taken.deed = .handled (.text text))
    (hhome : taken.home = (commands.dispatch
      { owner, request, session := c.task.session } c.home).1)
    (hid : taken.task.session = c.task.session)
    (hnext : taken.task.stage = .answering (commands.dispatch
      { owner, request, session := c.task.session } c.home).2.text)
    (hfrugal : ∀ e ∈ (c.after taken).exchanges owner, e.Frugal commands) :
    Kept commands owner (c.after taken) := by
  obtain ⟨howned, haccepts⟩ := hk.session hs
  obtain ⟨hstate, hlist⟩ := haccepts (by rw [hstage]; rfl)
  let e : Exchange := { home := c.home, call := { owner, request, session := c.task.session } }
  have hqueue : c.queue = [] := hk.queue_nil (by rw [hstage]; rfl)
  have hempty : s.queue = [] := (queueOf_of_get? hs).symm.trans hqueue
  have hone : exchangesOf owner c.task.session [(c.home, taken.deed)] = [e] := by
    rw [hdeed]
    exact exchangesOf_request owner _ _ hparse
  have hall := exchanges_after owner c hid
  rw [hone] at hall
  have he : e.Frugal commands := hfrugal e (by rw [hall]; simp)
  obtain ⟨hsession, hroom⟩ := he.outcome_session hs hstate hlist hempty
  have hsent : taken.home.sessions.get? c.task.session =
      some { s with queue := e.sent commands } := by
    rw [hhome]
    exact hsession
  have hafter : (c.after taken).session? = some { s with queue := e.sent commands } := by
    show taken.home.sessions.get? taken.task.session = _
    rw [hid]
    exact hsent
  have hwrote : wroteOf [(c.home, taken.deed)] = [] := by
    unfold wroteOf
    rw [hdeed]
    rfl
  refine ⟨⟨_, hafter, howned, fun _ => ⟨hstate, hlist⟩⟩, ?_, ?_, ?_, ?_⟩
  · have htexts := hk.texts_eq
    rw [hqueue, hstage] at htexts
    rw [wrote_after, hwrote, List.append_nil, hall, List.flatMap_append, ← htexts]
    show c.wrote ++ queueOf taken.home taken.task.session ++ taken.task.stage.answer = _
    rw [hid, queueOf_of_get? hsent, hnext]
    simp [Stage.answer, Exchange.texts, Exchange.response, Exchange.outcome, e]
  · intro h
    show queueOf _ _ = []
    have haway : taken.task.stage.looksAway = true := h
    rw [hnext] at haway
    cases haway
  · intro _
    show (queueOf _ _).length < _
    rw [queueOf_of_get? hafter]
    exact hroom
  · intro e' he'
    rw [hall] at he'
    rcases List.mem_append.mp he' with he' | he'
    · exact hk.clear e' he'
    · rw [List.mem_singleton.mp he']
      exact ⟨s, hs, hstate, hlist, hempty⟩

/-- The answer goes to the queue, which has room for it. -/
theorem Kept.answered (hk : Kept commands owner c) (hs : c.session? = some s) {text : String}
    (hstage : c.task.stage = .answering text) :
    Kept commands owner (c.after (c.task.answer c.home c.pipe text)) := by
  obtain ⟨howned, haccepts⟩ := hk.session hs
  obtain ⟨hstate, hlist⟩ := haccepts (by rw [hstage]; rfl)
  have hqueue : c.queue = s.queue := queueOf_of_get? hs
  have hroom : s.queue.length < outboundQueueLimit := by
    rw [← hqueue]
    exact hk.has_room (by rw [hstage]; exact List.cons_ne_nil _ _)
  have hsend := Sessions.send_of_get? text hs
  rw [Session.send_of_room text hstate hlist hroom] at hsend
  have hget := Sessions.get?_modify_self (fun _ => { s with queue := s.queue ++ [text] }) hs
  have htexts := hk.texts_eq
  rw [hqueue, hstage] at htexts
  unfold Task.answer
  rw [hsend]
  refine ⟨⟨_, hget, howned, fun _ => ⟨hstate, hlist⟩⟩, ?_,
    (fun h => by cases h), (fun h => absurd rfl h), ?_⟩
  rotate_left
  · rw [exchanges_after owner c rfl]
    exact (List.append_nil (c.exchanges owner)).symm ▸ hk.clear
  rw [wrote_after, exchanges_after owner c rfl]
  show c.wrote ++ [] ++ queueOf { c.home with sessions := _ } c.task.session ++ [] =
    (c.exchanges owner ++ []).flatMap _
  rw [queueOf_of_get? hget, List.append_nil, List.append_nil, List.append_nil,
    ← List.append_assoc]
  exact htexts

end Course

end DeviceGateway.Channel
