import DeviceGateway.Gateway.Network
import DeviceGateway.Proofs.Channel.Due

/-
  A channel takes over from HTTP. Octets that were read already come to the receiver at once, others
  as they arrive; the task does the same whichever way they come. Beside the course that gets its
  octets in pieces (`c`) runs one that has them all at the start (`d`): whatever `c` does, `d` comes
  to do as well, reading first when it has to (`Tracks.step`). So both do the same things (`Alike`),
  and have done the same when they come to rest (`handover_is_seamless`).
-/

open DeviceGateway.Stream (Pipe)

namespace DeviceGateway.Channel

open Sent

/-- What may happen around a client that is alone in the home with its channel, and whose requests
go to `commands`. -/
def Happening.Private (commands : CommandTable Home) : Happening → Prop
  | .send _ | .elsewhere _ => False
  | a => a.Lone commands

theorem Happening.Private.lone {commands : CommandTable Home} {a : Happening}
    (ha : a.Private commands) : a.Lone commands := by
  cases a with
  | send _ | elsewhere _ => cases ha
  | _ => exact ha

/-- The stage without its deadline; to wait and to listen are one. -/
def Stage.kind : Stage → Stage
  | .writing _ => .writing 0
  | .closing _ => .closing 0
  | .leaving _ => .leaving 0
  | .listening => .waiting
  | stage => stage

/-- What a stage of the same kind can be. -/
theorem Stage.of_kind {stage stage' : Stage} (h : stage'.kind = stage.kind) :
    match stage with
    | .waiting | .listening => stage' = .waiting ∨ stage' = .listening
    | .writing _ => ∃ deadline, stage' = .writing deadline
    | .closing _ => ∃ deadline, stage' = .closing deadline
    | .leaving _ => ∃ deadline, stage' = .leaving deadline
    | _ => stage' = stage := by
  cases stage <;> cases stage' <;> cases h <;> simp

theorem Stage.isOpen_kind (stage : Stage) : stage.kind.isOpen = stage.isOpen := by
  cases stage <;> rfl

/-- Does a deed amount to something, beyond that the task has moved? -/
def Deed.counts : Deed → Bool
  | .moved | .parted _ | .shut _ => false
  | _ => true

namespace Course

/-- What the task has done, each time with the home that it found: the messages that it handled,
its answers, the texts that it wrote, and how it left. -/
def feats (c : Course) : List (Home × Deed) := c.deeds.filter (·.2.counts)

/-- Have two courses come to the same, but for what their tasks have read, and for deadlines? -/
structure Alike (c d : Course) : Prop where
  home_eq : d.home = c.home
  session_eq : d.task.session = c.task.session
  out_eq : d.task.wire.out = c.task.wire.out
  pong_eq : d.task.wire.pong = c.task.wire.pong
  isOpen_eq : d.task.wire.isOpen = c.task.wire.isOpen
  kind_eq : d.task.stage.kind = c.task.stage.kind
  written_eq : d.written = c.written
  feats_eq : d.feats = c.feats

variable {commands : CommandTable Home} {c d e : Course} {m : Moment} {s : Session}
  {taken taken' : Taken}

theorem Alike.symm (h : c.Alike d) : d.Alike c :=
  ⟨h.home_eq.symm, h.session_eq.symm, h.out_eq.symm, h.pong_eq.symm, h.isOpen_eq.symm,
    h.kind_eq.symm, h.written_eq.symm, h.feats_eq.symm⟩

theorem Alike.trans (h : c.Alike d) (h' : d.Alike e) : c.Alike e :=
  ⟨h'.home_eq.trans h.home_eq, h'.session_eq.trans h.session_eq, h'.out_eq.trans h.out_eq,
    h'.pong_eq.trans h.pong_eq, h'.isOpen_eq.trans h.isOpen_eq, h'.kind_eq.trans h.kind_eq,
    h'.written_eq.trans h.written_eq, h'.feats_eq.trans h.feats_eq⟩

theorem feats_after (c : Course) (taken : Taken) : (c.after taken).feats =
    c.feats ++ if taken.deed.counts then [(c.home, taken.deed)] else [] := by
  show (c.deeds ++ [(c.home, taken.deed)]).filter _ = _
  rw [List.filter_append]
  congr 1
  cases h : taken.deed.counts <;> simp [h]

namespace Alike

theorem session?_eq (h : c.Alike d) : d.session? = c.session? := by
  unfold session?
  rw [h.home_eq, h.session_eq]

theorem queue_eq (h : c.Alike d) : d.queue = c.queue := by
  unfold queue
  rw [h.home_eq, h.session_eq]

theorem owes_eq (h : c.Alike d) : d.task.wire.owes = c.task.wire.owes := by
  unfold Wire.owes
  rw [h.out_eq, h.pong_eq]

theorem open_eq (h : c.Alike d) : d.task.stage.isOpen = c.task.stage.isOpen := by
  rw [← Stage.isOpen_kind, h.kind_eq, Stage.isOpen_kind]

theorem stage_eq (h : c.Alike d) {stage : Stage} (hstage : c.task.stage = stage) :
    d.task.stage.kind = stage.kind := by
  rw [h.kind_eq, hstage]

end Alike

/-- A step that only reads, or goes from waiting to listening and back, changes nothing that
counts. -/
theorem alike_after (hdeed : taken.deed = .moved) (hhome : taken.home = c.home)
    (hid : taken.task.session = c.task.session) (hout : taken.task.wire.out = c.task.wire.out)
    (hpong : taken.task.wire.pong = c.task.wire.pong)
    (hopen : taken.task.wire.isOpen = c.task.wire.isOpen)
    (hkind : taken.task.stage.kind = c.task.stage.kind)
    (hpipe : taken.pipe.written = c.pipe.written) : c.Alike (c.after taken) := by
  refine ⟨hhome, hid, hout, hpong, hopen, hkind, ?_, ?_⟩
  · show c.received ++ taken.pipe.written = _
    rw [hpipe]
    rfl
  · rw [feats_after, hdeed]
    exact List.append_nil _

/-! ## Leading to -/

/-- Does the task come by its own steps to where `P` holds, whatever the moments? -/
inductive Leads (commands : CommandTable Home) (P : Course → Prop) : Course → Prop
  | here {d : Course} (h : P d) : Leads commands P d
  | next {d : Course} (take : Moment → Taken)
      (hstep : ∀ m : Moment, m.stop = false → m.commands = commands →
        d.task.step m d.home d.pipe = some (take m))
      (hnext : ∀ m : Moment, m.stop = false → m.commands = commands →
        Leads commands P (d.after (take m))) : Leads commands P d

variable {P Q : Course → Prop}

theorem Leads.trans (h : Leads commands P d) (hthen : ∀ d, P d → Leads commands Q d) :
    Leads commands Q d := by
  induction h with
  | here h => exact hthen _ h
  | next take hstep _ ih => exact .next take hstep ih

/-- A step to where `P` holds. -/
theorem Leads.once (take : Moment → Taken)
    (hstep : ∀ m : Moment, m.stop = false → m.commands = commands →
      d.task.step m d.home d.pipe = some (take m))
    (hnext : ∀ m : Moment, m.stop = false → m.commands = commands → P (d.after (take m))) :
    Leads commands P d :=
  .next take hstep fun m hstop hcommands => .here (hnext m hstop hcommands)

/-- What a course leads to is there after some of the steps at a row of moments. -/
theorem Leads.steps (h : Leads commands P d) (moments : Nat → Moment)
    (hmoments : ∀ i, (moments i).stop = false ∧ (moments i).commands = commands) :
    ∃ n, P (d.run (steps moments n)) := by
  induction h generalizing moments with
  | here h => exact ⟨0, h⟩
  | @next d take hstep _ ih =>
    obtain ⟨hstop, hcommands⟩ := hmoments 0
    obtain ⟨n, hn⟩ := ih (moments 0) hstop hcommands (fun i => moments (i + 1))
      fun i => hmoments (i + 1)
    refine ⟨n + 1, ?_⟩
    rw [steps_succ]
    show P ((d.perform (.step (moments 0))).run _)
    unfold perform
    dsimp only
    rw [hstep (moments 0) hstop hcommands]
    exact hn

end Course

/-! ## What comes next -/

namespace Receiver

variable {r : Receiver} {bs : Bytes} {message : Message} {fault : FrameFault} {rest : List Inbound}

/-- When as much has been read as is needed, the message that is said next is there. -/
theorem message_of_said (hread : ∀ r', r.message = .ok (r', none) → bs = [])
    (h : (r.push bs).said = .message message :: rest) :
    ∃ r', r.message = .ok (r', some message) ∧ (r'.push bs).said = rest := by
  cases hm : r.message with
  | error f => cases (said_of_error (message_error_push hm bs)).symm.trans h
  | ok o =>
    obtain ⟨r', m?⟩ := o
    cases m? with
    | none =>
      rw [hread r' hm, push_nil, said_of_none hm] at h
      cases h
    | some m =>
      obtain ⟨hsame, hrest⟩ := List.cons.inj ((said_of_message (message_push hm bs)).symm.trans h)
      cases hsame
      exact ⟨r', rfl, hrest⟩

theorem fault_of_said (hread : ∀ r', r.message = .ok (r', none) → bs = [])
    (h : (r.push bs).said = .fault fault :: rest) : r.message = .error fault := by
  cases hm : r.message with
  | error f =>
    cases (said_of_error (message_error_push hm bs)).symm.trans h
    rfl
  | ok o =>
    obtain ⟨r', m?⟩ := o
    cases m? with
    | none =>
      rw [hread r' hm, push_nil, said_of_none hm] at h
      cases h
    | some m => cases (said_of_message (message_push hm bs)).symm.trans h

theorem none_of_said (h : (r.push bs).said = []) : ∃ r', r.message = .ok (r', none) := by
  cases hm : r.message with
  | error f => cases (said_of_error (message_error_push hm bs)).symm.trans h
  | ok o =>
    obtain ⟨r', m?⟩ := o
    cases m? with
    | none => exact ⟨r', rfl⟩
    | some m => cases (said_of_message (message_push hm bs)).symm.trans h

end Receiver

/-- Something that the client has said, or has still to be read, is work. -/
theorem Task.hasWork_of_said {t : Task} {p : Pipe}
    (h : (t.wire.receiver.push p.incoming).said ≠ []) : t.hasWork p = true := by
  cases hwork : t.hasWork p with
  | true => rfl
  | false =>
    obtain ⟨_, hsaid, hincoming, _⟩ := Task.said_of_idle hwork
    rw [hincoming, Receiver.push_nil] at h
    exact absurd hsaid h

namespace Course

variable {commands : CommandTable Home} {c d : Course} {m : Moment} {s : Session}
  {taken taken' : Taken} {all : Bytes} {ended : Bool}

/-! ## Side by side -/

/-- Has `d`, which has had `all` octets from the start, come to where `c` is, which gets them in
pieces? In the end the client hangs up, or does not, as `ended` says. -/
structure Tracks (all : Bytes) (ended : Bool) (c d : Course) : Prop where
  alike : c.Alike d
  reads : d.pipe.Reads
  ended_eq : d.pipe.ended = ended
  queue_nil : c.task.stage = .listening ∨ d.task.stage = .listening → c.queue = []
  hears : c.task.stage.isOpen = true → ∀ future, c.heard ++ future = all →
    (c.task.wire.receiver.push (c.pipe.incoming ++ future)).said =
      (d.task.wire.receiver.push d.pipe.incoming).said

/-- `c` takes a step that changes nothing that counts. -/
theorem Tracks.ahead (ht : Tracks all ended c d) (hc : c.Alike (c.after taken))
    (hqueue : taken.task.stage = .listening → c.queue = [])
    (hsaid : ∀ future, (taken.task.wire.receiver.push (taken.pipe.incoming ++ future)).said =
      (c.task.wire.receiver.push (c.pipe.incoming ++ future)).said) :
    Tracks all ended (c.after taken) d := by
  refine ⟨hc.symm.trans ht.alike, ht.reads, ht.ended_eq, fun h => ?_, fun h future hfuture => ?_⟩
  · rw [hc.queue_eq]
    exact h.elim hqueue fun hd => ht.queue_nil (Or.inr hd)
  · exact (hsaid future).trans (ht.hears (hc.open_eq ▸ h) future hfuture)

/-- `d` takes a step that changes nothing that counts. -/
theorem Tracks.behind (ht : Tracks all ended c d) (hd : d.Alike (d.after taken))
    (hreads : taken.pipe.Reads) (hended : taken.pipe.ended = d.pipe.ended) (hqueue : d.queue = [])
    (hsaid : (taken.task.wire.receiver.push taken.pipe.incoming).said =
      (d.task.wire.receiver.push d.pipe.incoming).said) : Tracks all ended c (d.after taken) := by
  refine ⟨ht.alike.trans hd, hreads, hended.trans ht.ended_eq, fun _ => ?_,
    fun h future hfuture => ?_⟩
  · exact ht.alike.queue_eq.symm.trans hqueue
  · exact (ht.hears h future hfuture).trans hsaid.symm

/-- Do two steps make the same of a home and a task, but for what is read, and for deadlines? -/
structure Twin (taken taken' : Taken) : Prop where
  home_eq : taken'.home = taken.home
  deed_eq : taken'.deed = taken.deed
  session_eq : taken'.task.session = taken.task.session
  out_eq : taken'.task.wire.out = taken.task.wire.out
  pong_eq : taken'.task.wire.pong = taken.task.wire.pong
  isOpen_eq : taken'.task.wire.isOpen = taken.task.wire.isOpen
  kind_eq : taken'.task.stage.kind = taken.task.stage.kind

/-- Both take a step, the same but for what is read. -/
theorem Tracks.both (ht : Tracks all ended c d) (htwin : Twin taken taken')
    (hwritten : d.received ++ taken'.pipe.written = c.received ++ taken.pipe.written)
    (hreads : taken'.pipe.Reads) (hended : taken'.pipe.ended = d.pipe.ended)
    (hqueue : taken.task.stage = .listening ∨ taken'.task.stage = .listening →
      (c.after taken).queue = [])
    (hhears : taken.task.stage.isOpen = true → ∀ future, c.heard ++ future = all →
      (taken.task.wire.receiver.push (taken.pipe.incoming ++ future)).said =
        (taken'.task.wire.receiver.push taken'.pipe.incoming).said) :
    Tracks all ended (c.after taken) (d.after taken') := by
  refine ⟨⟨htwin.home_eq, htwin.session_eq, htwin.out_eq, htwin.pong_eq, htwin.isOpen_eq,
    htwin.kind_eq, hwritten, ?_⟩, hreads, hended.trans ht.ended_eq, hqueue, hhears⟩
  rw [feats_after, feats_after, ht.alike.feats_eq, ht.alike.home_eq, htwin.deed_eq]

/-- `d` comes to listen, when the queue is empty and there is something to listen to. -/
theorem Tracks.listens (ht : Tracks all ended c d) (hs : c.session? = some s)
    (hkind : c.task.stage.kind = .waiting) (hqueue : s.queue = [])
    (hwork : d.task.hasWork d.pipe = true) :
    Leads commands (fun d' => Tracks all ended c d' ∧ d'.task.stage = .listening) d := by
  have hds : d.session? = some s := ht.alike.session?_eq.trans hs
  have hdkind := ht.alike.kind_eq.trans hkind
  cases hstage : d.task.stage with
  | listening => exact .here ⟨ht, hstage⟩
  | waiting =>
    refine .once _ (fun m hstop _ => Task.step_turns hds ht.reads hstop hstage hqueue hwork)
      fun m _ _ => ⟨ht.behind ?_ ht.reads rfl (queueOf_of_get? hds |>.trans hqueue) rfl, rfl⟩
    exact alike_after rfl rfl rfl rfl rfl rfl (by rw [hstage]; rfl) rfl
  | _ =>
    rw [hstage] at hdkind
    cases hdkind

/-- A listening `d` reads what is needed for the next message. -/
theorem Tracks.reads_on (ht : Tracks all ended c d) (hs : c.session? = some s)
    (hqueue : s.queue = []) (hstage : d.task.stage = .listening)
    (howes : c.task.wire.owes = false) :
    Leads commands (fun d' => Tracks all ended c d' ∧ d'.task.stage = .listening ∧
      ∀ r, d'.task.wire.receiver.message = .ok (r, none) → d'.pipe.incoming = []) d := by
  have hds : d.session? = some s := ht.alike.session?_eq.trans hs
  by_cases hread : ∀ r, d.task.wire.receiver.message = .ok (r, none) → d.pipe.incoming = []
  · exact .here ⟨ht, hstage, hread⟩
  · obtain ⟨r, hmessage, hincoming⟩ : ∃ r, d.task.wire.receiver.message = .ok (r, none) ∧
        d.pipe.incoming ≠ [] := by
      simpa using hread
    let next : Taken := {
      home := d.home, pipe := { d.pipe with incoming := [] }
      task := { d.task with wire := { d.task.wire with receiver := r.push d.pipe.incoming } } }
    refine .once (fun _ => next) (fun m _ _ => ?_) fun m _ _ => ⟨ht.behind ?_ ht.reads rfl
      (queueOf_of_get? hds |>.trans hqueue) ?_, hstage, fun _ _ => rfl⟩
    · rw [Task.step_listens hds hstage, Task.listen_receives (ht.alike.owes_eq.trans howes),
        Task.receive_reads ht.reads hmessage hincoming]
      rfl
    · exact alike_after rfl rfl rfl rfl rfl rfl rfl rfl
    · show ((r.push d.pipe.incoming).push []).said = _
      rw [Receiver.push_nil, Receiver.said_push_of_none hmessage]

/-- `d` comes to where the next message is at hand. -/
theorem Tracks.attends (ht : Tracks all ended c d) (hs : c.session? = some s)
    (hkind : c.task.stage.kind = .waiting) (hqueue : s.queue = [])
    (howes : c.task.wire.owes = false) (hwork : d.task.hasWork d.pipe = true) :
    Leads commands (fun d' => Tracks all ended c d' ∧ d'.task.stage = .listening ∧
      ∀ r, d'.task.wire.receiver.message = .ok (r, none) → d'.pipe.incoming = []) d :=
  (ht.listens hs hkind hqueue hwork).trans fun _ ⟨ht', hstage⟩ =>
    ht'.reads_on hs hqueue hstage howes

/-! ## Every step -/

/-- The octets of a flush, for a client that reads. -/
theorem written_flush (hp : c.pipe.Reads) :
    c.received ++ (c.task.wire.flush c.pipe).2.1.written =
      c.written ++ c.task.wire.out ++ octetsOf c.task.wire.owed := by
  obtain ⟨out, hflush⟩ := Wire.flush_of_reads hp c.task.wire
  have hwritten := Wire.flush_written c.task.wire c.pipe
  have hnil : (c.task.wire.flush c.pipe).1.out = [] := by rw [hflush]
  rw [hnil, List.append_nil] at hwritten
  rw [hwritten]
  simp [written]

theorem Alike.owed_eq (h : c.Alike d) : d.task.wire.owed = c.task.wire.owed := by
  unfold Wire.owed
  rw [h.pong_eq]

/-- Both flush. -/
theorem Tracks.flush (ht : Tracks all ended c d) (hp : c.pipe.Reads) {stage stage' : Stage}
    (hkind : stage'.kind = stage.kind)
    (hqueue : stage = .listening ∨ stage' = .listening → c.queue = [])
    (hopen : stage.isOpen = true → c.task.stage.isOpen = true) :
    Tracks all ended
      (c.after { home := c.home, pipe := (c.task.wire.flush c.pipe).2.1
                 task := { c.task with wire := (c.task.wire.flush c.pipe).1, stage := stage } })
      (d.after { home := d.home, pipe := (d.task.wire.flush d.pipe).2.1
                 task := { d.task with wire := (d.task.wire.flush d.pipe).1
                                       stage := stage' } }) := by
  have halike := ht.alike
  obtain ⟨out, hflush⟩ := Wire.flush_of_reads hp c.task.wire
  obtain ⟨out', hflush'⟩ := Wire.flush_of_reads ht.reads d.task.wire
  refine ht.both ⟨halike.home_eq, rfl, halike.session_eq, ?_, ?_, ?_, hkind⟩ ?_ ?_ ?_ hqueue ?_
  · dsimp only
    rw [hflush, hflush']
  · dsimp only
    rw [hflush, hflush']
  · dsimp only
    rw [hflush, hflush']
    exact halike.isOpen_eq
  · dsimp only
    rw [written_flush hp, written_flush ht.reads, halike.written_eq, halike.out_eq,
      halike.owed_eq]
  · dsimp only
    rw [hflush']
    exact ht.reads
  · dsimp only
    rw [hflush']
  · intro h future hfuture
    dsimp only
    rw [hflush, hflush']
    exact ht.hears (hopen h) future hfuture

/-- Both end the open state in the same way. -/
theorem Tracks.leave (ht : Tracks all ended c d) {t t' : Task} {p p' : Pipe} {e : Exit}
    (hid : t'.session = t.session) (hout : t'.wire.out = t.wire.out)
    (hpong : t'.wire.pong = t.wire.pong) (hopen : t'.wire.isOpen = t.wire.isOpen)
    (hp : p.written = c.pipe.written) (hp' : p'.written = d.pipe.written) (hreads : p'.Reads)
    (hended : p'.ended = d.pipe.ended) :
    Tracks all ended (c.after (t.leave c.home p e)) (d.after (t'.leave d.home p' e)) := by
  refine ht.both ⟨ht.alike.home_eq, rfl, hid, hout, hpong, hopen, rfl⟩ ?_ hreads hended ?_ ?_
  · show d.received ++ p'.written = c.received ++ p.written
    rw [hp, hp']
    exact ht.alike.written_eq
  · rintro (h | h) <;> cases h
  · intro h
    cases h

/-- The next item is at hand for `d`, once `c` meets with it. -/
theorem Tracks.meets (ht : Tracks all ended c d) (hs : c.session? = some s)
    (hstage : c.task.stage = .listening) (hquiet : c.task.wire.owes = false)
    {future : Bytes} (hfuture : c.heard ++ future = all) {item : Inbound} {rest : List Inbound}
    (hsaid : (c.task.wire.receiver.push (c.pipe.incoming ++ future)).said = item :: rest) :
    Leads commands (fun d' => Tracks all ended c d' ∧ d'.task.stage = .listening ∧
      (∀ r, d'.task.wire.receiver.message = .ok (r, none) → d'.pipe.incoming = []) ∧
      (d'.task.wire.receiver.push d'.pipe.incoming).said = item :: rest) d := by
  have hopen : c.task.stage.isOpen = true := by rw [hstage]; rfl
  have hqueue : s.queue = [] :=
    (queueOf_of_get? hs).symm.trans (ht.queue_nil (Or.inl hstage))
  have hwork : d.task.hasWork d.pipe = true := by
    refine Task.hasWork_of_said ?_
    rw [← ht.hears hopen future hfuture, hsaid]
    exact List.cons_ne_nil _ _
  refine (ht.attends hs (by rw [hstage]; rfl) hqueue hquiet hwork).trans ?_
  intro d' ⟨ht', hstage', hread⟩
  exact .here ⟨ht', hstage', hread, (ht'.hears hopen future hfuture).symm.trans hsaid⟩

/-- A message that is handled is handled the same, whatever has been read behind it. -/
theorem Alike.handle (h : c.Alike d) {m m' : Moment} (hcommands : m'.commands = m.commands)
    (receiver receiver' : Receiver) (owner : Principal) (message : Message) :
    Twin
      ({ c.task with wire := { c.task.wire with receiver := receiver } }.handle m c.home c.pipe
        owner message)
      ({ d.task with wire := { d.task.wire with receiver := receiver' } }.handle m' d.home d.pipe
        owner message) := by
  have hleave : ∀ {t t' : Task} {p p' : Pipe} (e : Exit), t'.session = t.session →
      t'.wire.out = t.wire.out → t'.wire.pong = t.wire.pong → t'.wire.isOpen = t.wire.isOpen →
      Twin (t.leave c.home p e) (t'.leave d.home p' e) :=
    fun _ hid hout hpong hopen => ⟨h.home_eq, rfl, hid, hout, hpong, hopen, rfl⟩
  unfold Task.handle
  cases message with
  | text text =>
    dsimp only
    cases hparse : Request.parse text with
    | error v => exact hleave _ h.session_eq h.out_eq h.pong_eq h.isOpen_eq
    | ok request =>
      dsimp only
      rw [hcommands, h.home_eq, h.session_eq]
      exact ⟨rfl, rfl, rfl, h.out_eq, h.pong_eq, h.isOpen_eq, rfl⟩
  | binary => exact hleave _ h.session_eq h.out_eq h.pong_eq h.isOpen_eq
  | ping data => exact ⟨h.home_eq, rfl, h.session_eq, h.out_eq, rfl, h.isOpen_eq, rfl⟩
  | pong => exact ⟨h.home_eq, rfl, h.session_eq, h.out_eq, h.pong_eq, h.isOpen_eq, rfl⟩
  | close => exact hleave _ h.session_eq h.out_eq h.pong_eq rfl

/-- The shutdown begins the same. -/
theorem Alike.retire (h : c.Alike d) (m m' : Moment) (e : Exit) :
    Twin (c.task.retire m c.home c.pipe e) (d.task.retire m' d.home d.pipe e) := by
  have hmark : d.task.mark .closing d.home = c.task.mark .closing c.home := by
    unfold Task.mark
    rw [h.home_eq, h.session_eq]
  cases hopen : c.task.wire.isOpen with
  | false =>
    rw [Task.retire_of_closed hopen, Task.retire_of_closed (h.isOpen_eq.trans hopen)]
    exact ⟨hmark, rfl, h.session_eq, h.out_eq, h.pong_eq, h.isOpen_eq, rfl⟩
  | true =>
    cases he : e.farewell with
    | none =>
      obtain rfl := Exit.farewell_eq_none.mp he
      exact ⟨hmark, rfl, h.session_eq, h.out_eq, h.pong_eq, h.isOpen_eq, rfl⟩
    | some close =>
      rw [Task.retire_of_open he hopen, Task.retire_of_open he (h.isOpen_eq.trans hopen)]
      refine ⟨hmark, rfl, h.session_eq, ?_, rfl, rfl, rfl⟩
      rw [Wire.queue_out, Wire.queue_out, h.out_eq, h.owed_eq]

theorem handle_not_listening (m : Moment) (h : Home) (p : Pipe) (t : Task) (owner : Principal)
    (message : Message) : (t.handle m h p owner message).task.stage ≠ .listening := by
  unfold Task.handle
  split
  · split <;> exact fun h => by cases h
  all_goals exact fun h => by cases h

/-- `c` handles a message, and so does `d`. -/
theorem Tracks.handles (ht : Tracks all ended c d) (hp : c.pipe.Reads) (hs : c.session? = some s)
    {future : Bytes} (hfuture : c.heard ++ future = all) (hm : m.commands = commands)
    (hstage : c.task.stage = .listening) (hquiet : c.task.wire.Quiet c.pipe)
    {receiver : Receiver} {message : Message}
    (hmessage : c.task.wire.receiver.message = .ok (receiver, some message)) :
    Leads commands (Tracks all ended (c.after
      ({ c.task with wire := { c.task.wire with receiver } }.handle m c.home c.pipe s.owner
        message))) d := by
  have howes := Wire.quiet_of_reads hp hquiet
  have hsaid :=
    Receiver.said_of_message (Receiver.message_push hmessage (c.pipe.incoming ++ future))
  refine (ht.meets hs hstage howes hfuture hsaid).trans ?_
  intro d' ⟨ht', hstage', hread, hsaid'⟩
  have hds : d'.session? = some s := ht'.alike.session?_eq.trans hs
  obtain ⟨receiver', hmessage', hrest⟩ := Receiver.message_of_said hread hsaid'
  let next (m : Moment) : Taken :=
    { d'.task with wire := { d'.task.wire with receiver := receiver' } }.handle m d'.home d'.pipe
      s.owner message
  refine .once next (fun m' _ _ => ?_) fun m' _ hcommands => ?_
  · rw [Task.step_listens hds hstage', Task.listen_receives (ht'.alike.owes_eq.trans howes),
      Task.receive_handles hmessage']
    rfl
  · obtain ⟨hpipe, _, hreceiver⟩ := Task.handle_kept m c.home c.pipe
      { c.task with wire := { c.task.wire with receiver } } s.owner message
    obtain ⟨hpipe', _, hreceiver'⟩ := Task.handle_kept m' d'.home d'.pipe
      { d'.task with wire := { d'.task.wire with receiver := receiver' } } s.owner message
    refine ht'.both (ht'.alike.handle (hcommands.trans hm.symm) _ _ _ _) ?_ ?_ ?_ ?_ ?_
    · rw [hpipe, hpipe']
      exact ht'.alike.written_eq
    · rw [hpipe']
      exact ht'.reads
    · rw [hpipe']
    · rintro (h | h)
      · exact (handle_not_listening _ _ _ _ _ _ h).elim
      · exact (handle_not_listening _ _ _ _ _ _ h).elim
    · intro _ future' hfuture'
      obtain rfl : future' = future := List.append_cancel_left (hfuture'.trans hfuture.symm)
      rw [hpipe, hpipe', hreceiver, hreceiver']
      exact hrest.symm

/-- `c` meets with a fault, and so does `d`. -/
theorem Tracks.faults (ht : Tracks all ended c d) (hp : c.pipe.Reads) (hs : c.session? = some s)
    {future : Bytes} (hfuture : c.heard ++ future = all)
    (hstage : c.task.stage = .listening) (hquiet : c.task.wire.Quiet c.pipe) {f : FrameFault}
    (hmessage : c.task.wire.receiver.message = .error f) :
    Leads commands (Tracks all ended (c.after (c.task.leave c.home c.pipe f.exit))) d := by
  have howes := Wire.quiet_of_reads hp hquiet
  have hsaid := Receiver.said_of_error
    (Receiver.message_error_push hmessage (c.pipe.incoming ++ future))
  refine (ht.meets hs hstage howes hfuture hsaid).trans ?_
  intro d' ⟨ht', hstage', hread, hsaid'⟩
  have hds : d'.session? = some s := ht'.alike.session?_eq.trans hs
  have hmessage' := Receiver.fault_of_said hread hsaid'
  refine .once (fun _ => d'.task.leave d'.home d'.pipe f.exit) (fun m' _ _ => ?_) fun _ _ _ => ?_
  · rw [Task.step_listens hds hstage', Task.listen_receives (ht'.alike.owes_eq.trans howes),
      Task.receive_faults hmessage']
    rfl
  · exact ht'.leave ht'.alike.session_eq ht'.alike.out_eq ht'.alike.pong_eq ht'.alike.isOpen_eq
      rfl rfl ht'.reads rfl

/-- `c` finds that the client has hung up, and so does `d`. -/
theorem Tracks.hangsUp (ht : Tracks all ended c d) (hp : c.pipe.Reads) (hs : c.session? = some s)
    (hall : c.heard = all) (hended : ended = true)
    (hstage : c.task.stage = .listening) (hquiet : c.task.wire.Quiet c.pipe) {receiver : Receiver}
    (hmessage : c.task.wire.receiver.message = .ok (receiver, none))
    (hincoming : c.pipe.incoming = []) :
    Leads commands (Tracks all ended (c.after
      ({ c.task with wire := { c.task.wire with receiver, isOpen := false } }.leave c.home c.pipe
        (FrameFault.exit .ended)))) d := by
  have howes := Wire.quiet_of_reads hp hquiet
  have hopen : c.task.stage.isOpen = true := by rw [hstage]; rfl
  have hqueue : s.queue = [] :=
    (queueOf_of_get? hs).symm.trans (ht.queue_nil (Or.inl hstage))
  have hnothing : ∀ d', Tracks all ended c d' →
      (d'.task.wire.receiver.push d'.pipe.incoming).said = [] := by
    intro d' ht'
    have hsaid := ht'.hears hopen [] (by rw [List.append_nil, hall])
    rw [hincoming, List.append_nil, Receiver.push_nil, Receiver.said_of_none hmessage] at hsaid
    exact hsaid.symm
  have hwork : d.task.hasWork d.pipe = true := by
    obtain ⟨r, hr⟩ := Receiver.none_of_said (hnothing d ht)
    unfold Task.hasWork
    rw [hr, ht.ended_eq, hended]
    simp
  refine (ht.attends hs (by rw [hstage]; rfl) hqueue howes hwork).trans ?_
  intro d' ⟨ht', hstage', hread⟩
  have hds : d'.session? = some s := ht'.alike.session?_eq.trans hs
  obtain ⟨r, hr⟩ := Receiver.none_of_said (hnothing d' ht')
  let next : Taken :=
    { d'.task with wire := { d'.task.wire with receiver := r, isOpen := false } }.leave d'.home
      d'.pipe (FrameFault.exit .ended)
  refine .once (fun _ => next) (fun m' _ _ => ?_) fun _ _ _ => ?_
  · rw [Task.step_listens hds hstage', Task.listen_receives (ht'.alike.owes_eq.trans howes),
      Task.receive_ends ht'.reads hr (hread r hr) (ht'.ended_eq.trans hended)]
    rfl
  · exact ht'.leave ht'.alike.session_eq ht'.alike.out_eq ht'.alike.pong_eq rfl rfl rfl ht'.reads
      rfl

/-- Whatever step `c` takes, `d` comes to where it is then. -/
theorem Tracks.step (ht : Tracks all ended c d) (hp : c.pipe.Reads) (hs : c.session? = some s)
    {future : Bytes} (hfuture : c.heard ++ future = all)
    (hended : c.pipe.ended = true → future = [] ∧ ended = true)
    (hstop : m.stop = false) (hm : m.commands = commands)
    (htook : c.task.Took m c.home c.pipe s taken) :
    Leads commands (Tracks all ended (c.after taken)) d := by
  have halike := ht.alike
  have hds : d.session? = some s := halike.session?_eq.trans hs
  have hqueue : c.queue = s.queue := queueOf_of_get? hs
  cases htook with
  | overflow hstage hstate =>
    have hd : d.task.stage = .ready := Stage.of_kind (halike.stage_eq hstage)
    exact .once _ (fun _ _ _ => Task.step_overflows hds hd hstate) fun _ _ _ =>
      ht.leave halike.session_eq halike.out_eq halike.pong_eq halike.isOpen_eq rfl rfl ht.reads rfl
  | checked hstage hstate =>
    have hd : d.task.stage = .ready := Stage.of_kind (halike.stage_eq hstage)
    refine .once _ (fun _ _ _ => Task.step_checks hds hd hstate) fun _ _ _ => ht.both
      ⟨halike.home_eq, rfl, halike.session_eq, halike.out_eq, halike.pong_eq, halike.isOpen_eq, rfl⟩
      halike.written_eq ht.reads rfl ?_ fun _ => ht.hears (by rw [hstage]; rfl)
    rintro (h | h) <;> cases h
  | dropped _ _ h => cases hstop.symm.trans h
  | @wrote text rest hstage hfull _ =>
    have hd : d.task.stage = .waiting := by
      rcases Stage.of_kind (halike.stage_eq hstage) with hd | hd
      · exact hd
      · have hnil := hqueue.symm.trans (ht.queue_nil (Or.inr hd))
        cases hfull.symm.trans hnil
    refine .once _ (fun _ hstop _ => Task.step_writes hds hstop hd hfull) fun _ _ _ => ht.both
      ⟨?_, rfl, halike.session_eq, ?_, rfl, halike.isOpen_eq, rfl⟩
      halike.written_eq ht.reads rfl ?_ fun _ => ht.hears (by rw [hstage]; rfl)
    · unfold Task.popped
      rw [halike.home_eq, halike.session_eq]
    · rw [Wire.queue_out, Wire.queue_out, halike.out_eq, halike.owed_eq]
    · rintro (h | h) <;> cases h
  | turned hstage hempty _ =>
    exact .here (ht.ahead (alike_after rfl rfl rfl rfl rfl rfl (by rw [hstage]; rfl) rfl)
      (fun _ => hqueue.trans hempty) fun _ => rfl)
  | slept hstage _ =>
    exact .here (ht.ahead (alike_after rfl rfl rfl rfl rfl rfl (by rw [hstage]; rfl) rfl)
      (fun h => by cases h) fun _ => rfl)
  | flushed hstage howes _ =>
    have hnil := ht.queue_nil (Or.inl hstage)
    have hwork : d.task.hasWork d.pipe = true := by
      unfold Task.hasWork
      rw [halike.owes_eq, howes, Bool.true_or]
    refine (ht.listens hs (by rw [hstage]; rfl) (hqueue.symm.trans hnil) hwork).trans ?_
    intro d' ⟨ht', hd'⟩
    have hds' : d'.session? = some s := ht'.alike.session?_eq.trans hs
    refine .once _ (fun m _ _ => ?_) fun _ _ _ => ht'.flush hp ht'.alike.kind_eq (fun _ => hnil) id
    rw [Task.step_listens hds' hd',
      Task.listen_flushes ht'.reads (ht'.alike.owes_eq.trans howes)]
    rfl
  | lost _ hfailed => cases (Wire.flush_done_of_reads hp c.task.wire).symm.trans hfailed
  | faulted hstage hquiet hmessage => exact ht.faults hp hs hfuture hstage hquiet hmessage
  | handled hstage hquiet hmessage => exact ht.handles hp hs hfuture hm hstage hquiet hmessage
  | @read receiver _ _ hstage _ hmessage hread =>
    obtain ⟨_, rfl, rfl⟩ := Pipe.octets_of_reads hp hread
    refine .here (ht.ahead (alike_after rfl rfl rfl rfl rfl rfl rfl rfl)
      (fun _ => ht.queue_nil (Or.inl hstage)) fun more => ?_)
    show ((receiver.push c.pipe.incoming).push more).said = _
    rw [Receiver.push_push, Receiver.said_push_of_none hmessage]
  | hungUp hstage hquiet hmessage hread =>
    obtain ⟨hincoming, hhung, rfl⟩ := Pipe.ended_of_reads hp hread
    obtain ⟨rfl, hend⟩ := hended hhung
    exact ht.hangsUp hp hs ((List.append_nil _).symm.trans hfuture) hend hstage hquiet hmessage
      hincoming
  | unreadable _ _ _ hread => exact absurd hread (Pipe.not_failed_of_reads hp)
  | stopped _ _ _ _ h => cases hstop.symm.trans h
  | interrupted _ h => cases hstop.symm.trans h
  | written hstage _ _ =>
    obtain ⟨deadline, hd⟩ : ∃ deadline, d.task.stage = .writing deadline :=
      Stage.of_kind (halike.stage_eq hstage)
    exact .once _ (fun _ hstop _ => Task.step_pushes hds ht.reads hstop hd) fun _ _ _ =>
      ht.flush hp rfl (by rintro (h | h) <;> cases h) fun _ => by rw [hstage]; rfl
  | stalled _ _ hundone => exact absurd (Wire.flush_done_of_reads hp c.task.wire) hundone
  | pushed _ hblocked => cases (Wire.flush_done_of_reads hp c.task.wire).symm.trans hblocked
  | @answered text hstage =>
    have hd : d.task.stage = .answering text := Stage.of_kind (halike.stage_eq hstage)
    refine .once _ (fun _ _ _ => Task.step_answers hds hd) fun _ _ _ => ht.both
      ⟨?_, ?_, halike.session_eq, halike.out_eq, halike.pong_eq, halike.isOpen_eq, rfl⟩
      halike.written_eq ht.reads rfl ?_ fun _ => ht.hears (by rw [hstage]; rfl)
    · unfold Task.answer
      rw [halike.home_eq, halike.session_eq]
    · unfold Task.answer
      rw [halike.home_eq, halike.session_eq]
    · rintro (h | h) <;> cases h
  | @retired e hstage =>
    have hd : d.task.stage = .left e := Stage.of_kind (halike.stage_eq hstage)
    refine .once _ (fun _ _ _ => Task.step_retires hds hd) fun m' _ _ => ht.both
      (halike.retire m m' e) halike.written_eq ht.reads rfl ?_ fun h => ?_
    · rintro (h | h) <;> cases (h ▸ Task.retire_shut ..)
    · cases (Task.retire_shut ..).symm.trans h
  | closed hstage =>
    obtain ⟨deadline, hd⟩ : ∃ deadline, d.task.stage = .closing deadline :=
      Stage.of_kind (halike.stage_eq hstage)
    exact .once _ (fun _ _ _ => Task.step_closes hds ht.reads hd) fun _ _ _ =>
      ht.flush hp rfl (by rintro (h | h) <;> cases h) fun h => by cases h
  | finished hstage hpipe hshut =>
    obtain ⟨deadline, hd⟩ : ∃ deadline, d.task.stage = .leaving deadline :=
      Stage.of_kind (halike.stage_eq hstage)
    have houtcome := congrArg (Deed.shut ·.2) ((Pipe.shutdown_of_reads hp).symm.trans hshut)
    refine .once _ (fun _ _ _ => Task.step_finishes hds ht.reads hd) fun _ _ _ => ht.both
      ⟨?_, houtcome, halike.session_eq, halike.out_eq, halike.pong_eq, halike.isOpen_eq, rfl⟩
      ?_ ht.reads rfl ?_ fun h => by cases h
    · unfold Task.finish
      rw [halike.home_eq, halike.session_eq]
    · rcases hpipe with rfl | rfl <;> exact halike.written_eq
    · rintro (h | h) <;> cases h

/-! ## Whole runs -/

/-- Something outside the task of `c` changes nothing that counts. -/
theorem Tracks.outside (ht : Tracks all ended c d) {c' : Course} (htask : c'.task = c.task)
    (hhome : c'.home = c.home) (hdeeds : c'.deeds = c.deeds) (hwritten : c'.written = c.written)
    {bs : Bytes} (hheard : c'.heard = c.heard ++ bs)
    (hincoming : c'.pipe.incoming = c.pipe.incoming ++ bs) : Tracks all ended c' d := by
  have halike := ht.alike
  refine ⟨⟨?_, ?_, ?_, ?_, ?_, ?_, ?_, ?_⟩, ht.reads, ht.ended_eq, ?_, fun h future hfuture => ?_⟩
  · exact halike.home_eq.trans hhome.symm
  · rw [htask]
    exact halike.session_eq
  · rw [htask]
    exact halike.out_eq
  · rw [htask]
    exact halike.pong_eq
  · rw [htask]
    exact halike.isOpen_eq
  · rw [htask]
    exact halike.kind_eq
  · exact halike.written_eq.trans hwritten.symm
  · unfold feats
    rw [hdeeds]
    exact halike.feats_eq
  · unfold queue
    rw [htask, hhome]
    exact ht.queue_nil
  · rw [htask] at h ⊢
    rw [hincoming, List.append_assoc]
    exact ht.hears h (bs ++ future) (by rw [← List.append_assoc, ← hheard, hfuture])

/-- Whatever happens to `c`, `d` comes to where it is then. -/
theorem Tracks.perform (ht : Tracks all ended c d) (hp : c.pipe.Reads) {a : Happening}
    (ha : a.Private commands) (hfuture : ∃ future, (c.perform a).heard ++ future = all)
    (hended : c.pipe.ended = true → c.heard = all ∧ ended = true) :
    Leads commands (Tracks all ended (c.perform a)) d := by
  cases a with
  | send text => cases ha
  | elsewhere h => cases ha
  | octets bs =>
    refine .here ?_
    unfold Course.perform
    dsimp only
    split
    · exact ht
    · exact ht.outside rfl rfl rfl rfl rfl rfl
  | receive =>
    refine .here (ht.outside rfl rfl rfl ?_ (List.append_nil _).symm ?_)
    · show c.received ++ c.pipe.take.2 ++ c.pipe.take.1.written = c.written
      rw [List.append_assoc, Pipe.take_written]
      rfl
    · unfold Course.perform Pipe.take
      dsimp only
      split <;> exact (List.append_nil _).symm
  | network room faults gone hangsUp =>
    exact .here (ht.outside rfl rfl rfl rfl (List.append_nil _).symm (List.append_nil _).symm)
  | step m =>
    obtain ⟨hstop, hm⟩ := ha
    obtain ⟨future, hfuture⟩ := hfuture
    unfold Course.perform at hfuture ⊢
    dsimp only at hfuture ⊢
    split at hfuture
    · exact .here ht
    · next taken hstep =>
      obtain ⟨s, hs⟩ := Task.exists_session_of_step hstep
      have hheard : c.heard ++ future = all := hfuture
      refine ht.step hp hs hheard (fun h => ?_) hstop hm (Task.step_took hs hstep)
      obtain ⟨hall, hend⟩ := hended h
      have hrest := hheard.trans (hall.symm.trans (List.append_nil _).symm)
      exact ⟨List.append_cancel_left hrest, hend⟩

/-- What the client has sent stays sent; once it has hung up, that is all. -/
theorem heard_perform (hp : c.pipe.Reads) (a : Happening) :
    c.heard <+: (c.perform a).heard ∧ (c.pipe.ended = true →
      (c.perform a).heard = c.heard ∧ (c.perform a).pipe.ended = true) := by
  cases a with
  | octets bs =>
    unfold perform
    dsimp only
    split
    · exact ⟨List.prefix_refl _, fun h => ⟨rfl, h⟩⟩
    · next hopen => exact ⟨List.prefix_append _ _, fun h => absurd h hopen⟩
  | elsewhere h =>
    unfold perform
    dsimp only
    split <;> exact ⟨List.prefix_refl _, fun h => ⟨rfl, h⟩⟩
  | receive =>
    unfold perform Pipe.take
    dsimp only
    split <;> exact ⟨List.prefix_refl _, fun h => ⟨rfl, h⟩⟩
  | network room faults gone hangsUp =>
    refine ⟨List.prefix_refl _, fun h => ⟨rfl, ?_⟩⟩
    show (c.pipe.ended || hangsUp) = true
    rw [h, Bool.true_or]
  | send text => exact ⟨List.prefix_refl _, fun h => ⟨rfl, h⟩⟩
  | step m =>
    unfold perform
    dsimp only
    split
    · exact ⟨List.prefix_refl _, fun h => ⟨rfl, h⟩⟩
    · next taken hstep =>
      obtain ⟨s, hs⟩ := Task.exists_session_of_step hstep
      exact ⟨List.prefix_refl _,
        fun h => ⟨rfl, (pipe_of_took hp (Task.step_took hs hstep)).2.trans h⟩⟩

theorem heard_run {base : Bytes} (hc : c.Alive base) (hcommands : commands.SendsOnly)
    (happenings : List Happening) (hprivate : ∀ a ∈ happenings, a.Private commands) :
    c.heard <+: (c.run happenings).heard ∧ (c.pipe.ended = true →
      (c.run happenings).heard = c.heard ∧ (c.run happenings).pipe.ended = true) := by
  have hall := run_invariant
    (P := fun c' => c'.Alive base ∧ c.heard <+: c'.heard ∧
      (c.pipe.ended = true → c'.heard = c.heard ∧ c'.pipe.ended = true))
    (fun c' a ⟨halive, hprefix, hend⟩ (ha : a.Private commands) => by
      obtain ⟨hgrown, hstays⟩ := heard_perform halive.1 a
      refine ⟨alive_perform halive ha.lone hcommands, hprefix.trans hgrown, fun h => ?_⟩
      obtain ⟨hsame, hended⟩ := hend h
      obtain ⟨hsame', hended'⟩ := hstays hended
      exact ⟨hsame'.trans hsame, hended'⟩)
    ⟨hc, List.prefix_refl _, fun h => ⟨rfl, h⟩⟩ happenings hprivate
  exact hall.2

/-- `d` comes to where `c` is in the end. -/
theorem tracks_run {base : Bytes} (hcommands : commands.SendsOnly) (happenings : List Happening) :
    ∀ {c d : Course}, c.Alive base → (∀ a ∈ happenings, a.Private commands) →
      Tracks (c.run happenings).heard (c.run happenings).pipe.ended c d →
      Leads commands
        (Tracks (c.run happenings).heard (c.run happenings).pipe.ended (c.run happenings)) d := by
  induction happenings with
  | nil => exact fun _ _ ht => .here ht
  | cons a happenings ih =>
    intro c d hc hprivate ht
    have ha := hprivate a List.mem_cons_self
    have hrest := fun b hb => hprivate b (List.mem_cons_of_mem a hb)
    have hc' := alive_perform hc ha.lone hcommands
    have hnow := (heard_run hc hcommands _ hprivate).2
    refine (ht.perform hc.1 ha ?_ ?_).trans fun d' ht' => ih hc' hrest ht'
    · exact (heard_run hc' hcommands happenings hrest).1
    · intro h
      obtain ⟨hheard, hended⟩ := hnow h
      exact ⟨hheard.symm, hended⟩

/-- When `c` is at rest, so is `d` before long. -/
theorem Tracks.rests (ht : Tracks all ended c d) (hp : c.pipe.Reads) (hs : c.session? = some s)
    (hall : c.heard = all) (hended : c.pipe.ended = ended) (hrest : c.AtRest) :
    Leads commands (fun d' => c.Alike d' ∧ d'.AtRest) d := by
  have hnow : ({ stop := false, now := 0 } : Moment).stop = false := rfl
  have hatRest : ∀ d', Tracks all ended c d' → (d'.task.stage = .ended ∨
      (d'.task.stage = .waiting ∧ s.queue = [] ∧ d'.task.hasWork d'.pipe = false)) →
      c.Alike d' ∧ d'.AtRest := fun d' ht' h =>
    ⟨ht'.alike, fun m hstop => (Task.step_eq_none_iff ht'.reads
      (ht'.alike.session?_eq.trans hs) hstop).mpr h⟩
  rcases (Task.step_eq_none_iff hp hs hnow).mp (hrest _ hnow) with hstage | ⟨hstage, hqueue, hidle⟩
  · exact .here (hatRest d ht (Or.inl (Stage.of_kind (ht.alike.stage_eq hstage))))
  · obtain ⟨howes, hsaid, hincoming, hopen⟩ := Task.said_of_idle hidle
    have hnothing : ∀ d', Tracks all ended c d' →
        (d'.task.wire.receiver.push d'.pipe.incoming).said = [] := by
      intro d' ht'
      have hsame := ht'.hears (by rw [hstage]; rfl) [] (by rw [List.append_nil, hall])
      rw [hincoming, List.append_nil, Receiver.push_nil, hsaid] at hsame
      exact hsame.symm
    have hsleeps : ∀ d', Tracks all ended c d' ∧ d'.task.stage = .listening ∧
        (∀ r, d'.task.wire.receiver.message = .ok (r, none) → d'.pipe.incoming = []) →
        Leads commands (fun d' => c.Alike d' ∧ d'.AtRest) d' := by
      intro d' ⟨ht', hstage', hread⟩
      have hds' : d'.session? = some s := ht'.alike.session?_eq.trans hs
      obtain ⟨r, hr⟩ := Receiver.none_of_said (hnothing d' ht')
      have howes' := ht'.alike.owes_eq.trans howes
      have hended' := ht'.ended_eq.trans (hended.symm.trans hopen)
      let next : Taken :=
        { home := d'.home, pipe := d'.pipe, task := { d'.task with stage := .waiting } }
      have hback : Tracks all ended c (d'.after next) := by
        refine ht'.behind ?_ ht'.reads rfl (queueOf_of_get? hds' |>.trans hqueue) rfl
        exact alike_after rfl rfl rfl rfl rfl rfl (by rw [hstage']; rfl) rfl
      refine .once (fun _ => next) (fun m hstop _ => ?_) fun _ _ _ =>
        hatRest _ hback (Or.inr ⟨rfl, hqueue, ?_⟩)
      · rw [Task.step_listens hds' hstage', Task.listen_receives howes',
          Task.receive_rests ht'.reads hstop hr (hread r hr) hended']
        rfl
      · show d'.task.hasWork d'.pipe = false
        unfold Task.hasWork
        rw [howes', hr, hread r hr, hended']
        rfl
    cases hwork : d.task.hasWork d.pipe with
    | true => exact (ht.attends hs (by rw [hstage]; rfl) hqueue howes hwork).trans hsleeps
    | false =>
      rcases Stage.of_kind (ht.alike.stage_eq hstage) with hd | hd
      · exact .here (hatRest d ht (Or.inr ⟨hd, hqueue, hwork⟩))
      · exact (ht.reads_on hs hqueue hd howes).trans hsleeps

theorem start_tracks (h : Home) {p : Pipe} (hp : p.Reads) (leftover : Bytes) (owner : Principal)
    (all : Bytes) (ended : Bool) : Tracks all ended (start h p leftover owner)
      (start h { p with incoming := all, ended } [] owner) := by
  refine ⟨⟨rfl, rfl, rfl, rfl, rfl, rfl, rfl, rfl⟩, hp, rfl, ?_, fun _ future hfuture => ?_⟩
  · rintro (h | h) <;> cases h
  · have hall : leftover ++ (p.incoming ++ future) = all :=
      (List.append_assoc _ _ _).symm.trans hfuture
    show ({ buffer := leftover ++ (p.incoming ++ future) } : Receiver).said =
      ({ buffer := all } : Receiver).said
    rw [hall]

/-- No octet is lost when HTTP hands a connection on. The channel that it becomes has for its
receiver what was read already. However the client's octets come to it, at that moment and later,
its task does what it does when it has read nothing yet and finds all of them at once: it handles
the same messages, gives the same answers, writes the same octets, and ends in the same way. -/
theorem handover_is_seamless (g : Gateway) (now : Nat) {l : Link} {http : Connection}
    {owner : Principal} (hserver : l.server = .http http) (hphase : http.phase = .handed owner)
    (hp : l.pipe.Reads) {commands : CommandTable Home} (hcommands : commands.SendsOnly)
    (happenings : List Happening) (hprivate : ∀ a ∈ happenings, a.Private commands)
    (moments : Nat → Moment)
    (hmoments : ∀ i, (moments i).stop = false ∧ (moments i).commands = commands) :
    let first := start g.home l.pipe http.buffer owner
    let c := first.run happenings
    let whole := start g.home { l.pipe with incoming := c.heard, ended := c.pipe.ended } [] owner
    l.step g now = some ({ g with home := first.home },
      { pipe := first.pipe, server := .channel first.task true }) ∧
    (∃ n, let d := whole.run (steps moments n)
      c.Alike d ∧ (c.AtRest → d.AtRest)) ∧
    ∃ n, (c.run (steps moments n)).AtRest ∧ (c.run (steps moments n)).inbound = c.inbound := by
  intro first c whole
  have hfirst : first.Alive l.pipe.written := ⟨hp, [], start_inOrder _ _ _ _⟩
  have hc : c.Alive l.pipe.written :=
    run_invariant (P := Alive l.pipe.written)
      (fun _ _ hc (ha : Happening.Private commands _) => alive_perform hc ha.lone hcommands)
      hfirst happenings hprivate
  refine ⟨?_, ?_, comes_to_rest hc hcommands moments hmoments⟩
  · unfold Link.step
    rw [hserver]
    dsimp only
    rw [hphase]
    rfl
  · have htracks := tracks_run hcommands happenings hfirst hprivate
      (start_tracks g.home hp http.buffer owner c.heard c.pipe.ended)
    have hleads : Leads commands (fun d => c.Alike d ∧ (c.AtRest → d.AtRest)) whole := by
      refine htracks.trans fun d ht => ?_
      by_cases hrest : c.AtRest
      · obtain ⟨s, hs⟩ := hc.2.elim fun _ h => h.exists_session
        exact (ht.rests hc.1 hs rfl rfl hrest).trans
          fun _ ⟨halike, hd⟩ => .here ⟨halike, fun _ => hd⟩
      · exact .here ⟨ht.alike, fun h => absurd h hrest⟩
    exact hleads.steps moments hmoments

/-- A ping of a client's, with its mask. -/
def pingRequest : Bytes :=
  Frame.encode 129 (some ⟨[1, 2, 3, 4]⟩) (utf8 "\x7b\"msgid\":7,\"msg\":\"ping\"\x7d")

/-- The first octet of the ping is there when HTTP lets go. -/
def pingBegun : Connection :=
  { buffer := pingRequest.take 1, phase := .handed ⟨"eve", .control⟩ }

/-- The rest comes in two pieces. -/
def restOfPing : List Happening :=
  let steps := List.replicate 6 (.step { stop := false, now := 0 })
  [.octets ((pingRequest.drop 1).take 4)] ++ steps ++ [.octets (pingRequest.drop 5)] ++ steps ++
    steps

/-- The ping in pieces is answered, as it is in one piece. -/
theorem splitPing_is_seamless :
    let g : Gateway := { tokenText := fun _ => "" }
    let l : Link := { server := .http pingBegun }
    let first := start g.home l.pipe pingBegun.buffer ⟨"eve", .control⟩
    let c := first.run restOfPing
    let whole := start g.home { l.pipe with incoming := c.heard, ended := c.pipe.ended } []
      ⟨"eve", .control⟩
    let moments : Nat → Moment := fun _ => { stop := false, now := 0 }
    c.wrote = ["\x7b\"msg\":\"ack\",\"msgid\":7,\"pong\":true\x7d"] ∧
    l.step g 0 = some ({ g with home := first.home },
      { pipe := first.pipe, server := .channel first.task true }) ∧
    (∃ n, let d := whole.run (steps moments n)
      c.Alike d ∧ (c.AtRest → d.AtRest)) ∧
    ∃ n, (c.run (steps moments n)).AtRest ∧ (c.run (steps moments n)).inbound = c.inbound := by
  have hprivate : ∀ a ∈ restOfPing, a.Private Home.commands := by
    intro a ha
    simp only [restOfPing, List.mem_append, List.mem_singleton, List.mem_replicate] at ha
    rcases ha with (((rfl | ⟨_, rfl⟩) | rfl) | ⟨_, rfl⟩) | ⟨_, rfl⟩
    · trivial
    · exact ⟨rfl, rfl⟩
    · trivial
    · exact ⟨rfl, rfl⟩
    · exact ⟨rfl, rfl⟩
  have hseamless := handover_is_seamless { tokenText := fun _ => "" } 0
    (l := { server := .http pingBegun }) rfl rfl ⟨rfl, rfl, rfl⟩ Home.commands_sendsOnly restOfPing
    hprivate (fun _ => { stop := false, now := 0 }) fun _ => ⟨rfl, rfl⟩
  refine ⟨by decide +kernel, ?_⟩
  exact hseamless

end Course

end DeviceGateway.Channel
