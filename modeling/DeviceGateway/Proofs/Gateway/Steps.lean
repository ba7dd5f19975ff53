import DeviceGateway.Proofs.Channel.Outbound
import DeviceGateway.Proofs.Gateway.Bearers
import DeviceGateway.Proofs.Gateway.Statuses

/-
  What the steps of a connection do about answers and channels. A step answers nothing, or drops
  the connection with octets unwritten, or answers a request in one of two ways
  (`Connection.step_went`): with 101 for a request that is granted a channel, in a version that has
  upgrades, after which a channel is pending for whom the request was from; or so that no channel is
  pending. With a channel pending and everything written, what is left of the body is passed over
  and the connection is handed on (`Connection.drain_next`).
-/

open DeviceGateway.Stream (Pipe)

namespace DeviceGateway

open Http (Head Terms Reply announced)

/-! ## Gateways -/

/-- The gateway when its sessions have only been tended. -/
structure Gateway.Tended (g g' : Gateway) : Prop where
  resources_eq : g'.resources = g.resources
  commands_eq : g'.commands = g.commands
  sessions : Channel.Sessions.Tended g.sessions g'.sessions

namespace Gateway

theorem Tended.refl (g : Gateway) : g.Tended g := ⟨rfl, rfl, Channel.Sessions.Tended.refl _⟩

theorem route_tended (g : Gateway) (now : Nat) (head : Head) :
    g.Tended (g.route now head).1 := by
  have hkept := Channel.Sessions.Tended.refl g.sessions
  have hauth : g.Tended (g.authenticate now head).1 := ⟨rfl, rfl, hkept⟩
  have hissue : ∀ owner, g.Tended ((g.authenticate now head).1.issueToken now owner).1 := by
    intro owner
    unfold issueToken
    split
    · exact ⟨rfl, rfl, hkept⟩
    · exact ⟨rfl, rfl, hkept⟩
  unfold route
  split
  · split
    · next heq =>
      rw [heq] at hauth
      exact hauth
    · next heq =>
      rw [heq] at hauth
      exact hauth
  · split
    · next heq =>
      rw [heq] at hauth
      exact hauth
    · next owner heq =>
      rw [heq] at hissue
      exact hissue owner
  · split
    · exact Tended.refl g
    · split
      · next heq =>
        rw [heq] at hauth
        exact hauth
      · next heq =>
        rw [heq] at hauth
        exact hauth
  · exact Tended.refl g
  · exact ⟨rfl, rfl, Channel.Sessions.tended_prune g.sessions⟩
  · exact Tended.refl g

theorem serveResource_tended (g : Gateway) (owner : Principal) (head : Head) (body : Bytes) :
    g.Tended (g.serveResource owner head body).1 := by
  refine ⟨rfl, rfl, ?_⟩
  show Channel.Sessions.Tended g.home.sessions
    (g.resources.serve g.home owner (resourceRequest head body)).1.sessions
  unfold Resources.serve
  split
  · exact Home.serve_tended g.home owner (resourceRequest head body)
  all_goals exact Channel.Sessions.Tended.refl _

end Gateway

/-! ## Steps of a connection -/

/-- For whom a channel is to be opened once the reply is written. -/
def After.pending? : After → Option Principal
  | .channel owner => some owner
  | .next | .close => none

/-- For whom the connection is still to become a channel. -/
def Phase.pending? : Phase → Option Principal
  | .replied _ after | .draining _ after => after.pending?
  | .handed owner => some owner
  | _ => none

/-- The request that is to be answered next. -/
def Phase.asked? : Phase → Option Exchange
  | .serving x | .collecting x => some x
  | _ => none

/-- Is there no answer that may still have to be written? -/
def Phase.Waits : Phase → Prop
  | .replied _ _ | .draining _ _ | .handed _ => False
  | _ => True

theorem Phase.Waits.pending_none {phase : Phase} (h : phase.Waits) : phase.pending? = none := by
  cases phase <;> first | rfl | exact h.elim

/-- A connection that waits, and goes on reading, with nothing else done. -/
structure Served.Waits (g : Gateway) (s : Served) : Prop where
  gateway_eq : s.gateway = g
  phase : s.connection.phase.Waits
  reads : 0 < s.connection.readSize

/-- A connection that is passing over the rest of a body, or is past it. -/
structure Served.Draws (g : Gateway) (pending : Option Principal) (s : Served) : Prop where
  gateway_eq : s.gateway = g
  pending_eq : s.connection.phase.pending? = pending
  reads : 0 < s.connection.readSize

/-- What is common to all steps: sessions are only tended, and the connection goes on reading. -/
structure Served.Follows (g : Gateway) (s : Served) : Prop where
  gateway : g.Tended s.gateway
  reads : 0 < s.connection.readSize

theorem Served.Waits.follows {g : Gateway} {s : Served} (h : s.Waits g) : s.Follows g :=
  ⟨h.gateway_eq ▸ Gateway.Tended.refl g, h.reads⟩

theorem Served.Draws.follows {g : Gateway} {pending : Option Principal} {s : Served}
    (h : s.Draws g pending) : s.Follows g := ⟨h.gateway_eq ▸ Gateway.Tended.refl g, h.reads⟩

namespace Connection

/-- What a step of a connection is, as far as answers and channels go. -/
inductive Went (g : Gateway) (now : Nat) (c : Connection) (s : Served) : Prop
  /-- It answers nothing. -/
  | moved (hpending : s.connection.phase.pending? = c.phase.pending?)
      (hsilent : c.phase.asked? = none ∨ s.connection.phase.Waits)
      (hends : c.phase = .ended → s.connection.phase = .ended)
  /-- What is to be written cannot be. -/
  | dropped (hphase : s.connection.phase = .ended) (hrest : s.connection.out ≠ [])
  /-- A request for a channel is granted, in a version that has upgrades. -/
  | granted {x : Exchange} {owner : Principal} (hasked : c.phase.asked? = some x)
      (hphase : s.connection.phase = .replied x (.channel owner))
      (hversion : x.head.version = .http11)
      (howner : (g.authenticate now x.head).2 = some owner)
      (hstatus : announced s.connection.out = 101)
  /-- A request is answered in any other way. -/
  | answered {x : Exchange} {after : After} (hasked : c.phase.asked? = some x)
      (hphase : s.connection.phase = .replied x after) (hafter : after.pending? = none)
      (hstatus : announced s.connection.out = 101 → x.head.version ≠ .http11)

variable {g : Gateway} {now : Nat} {p : Pipe} {c : Connection} {x : Exchange} {after : After}
  {s : Served}

theorem readMore_reads (g : Gateway) (now : Nat) (p : Pipe) (hc : 0 < c.readSize) :
    0 < (c.readMore g now p).1.readSize := by
  have hadapt : ∀ (c : Connection) (n : Nat), 0 < c.readSize → 0 < (c.adapt n).readSize := by
    intro c n hc
    have hmax : 0 < Http.maxHeadBytes := by decide
    unfold adapt
    dsimp only
    split
    · show 0 < min (2 * c.readSize) Http.maxHeadBytes
      omega
    · split
      · split
        · show 0 < max (c.readSize / 2) 8192
          omega
        · exact hc
      · exact hc
  unfold readMore
  dsimp only
  split
  · exact hadapt _ _ hc
  all_goals exact hc

theorem enter_waits (hc : 0 < c.readSize) {phase : Phase} (h : phase.Waits) :
    (c.enter g p phase).Waits g := ⟨rfl, h, hc⟩

theorem abort_waits (hc : 0 < c.readSize) : (c.abort g p).Waits g := ⟨rfl, trivial, hc⟩

theorem refuse_waits (hc : 0 < c.readSize) (status : Nat) :
    (c.refuse g now p status).Waits g := by
  unfold refuse
  split
  · exact abort_waits hc
  · exact ⟨rfl, trivial, hc⟩

theorem begin_waits (hc : 0 < c.readSize) (head : Head) (terms : Terms) (rest : Bytes) :
    (c.begin g p head terms rest).Waits g := by
  unfold begin
  dsimp only
  split
  all_goals exact ⟨rfl, trivial, hc⟩

theorem takeHead_waits (hc : 0 < c.readSize) (hphase : c.phase.Waits) {deadline : Nat}
    (hstep : c.takeHead g now p deadline = some s) : s.Waits g := by
  refine takeHead_leads (refuse_waits hc) (begin_waits hc) (fun seen s hawait => ?_) hstep
  have hsize : 0 < { c with seen }.readSize := hc
  refine awaitHead_leads (Q := fun c => 0 < c.readSize) (readMore_reads g now p hsize)
    ?_ ?_ ?_ hawait
  · intro c' p' hc' hkept
    refine ⟨rfl, ?_, hc'⟩
    rw [hkept]
    exact hphase
  · exact fun c' p' hc' => enter_waits hc' trivial
  · exact fun c' p' hc' => abort_waits hc'

/-- Taking a portion of a body goes on reading. -/
theorem takePortion_reads {P : Served → Prop} {go : Connection → Pipe → Exchange → Served}
    {again waiting : Connection → Pipe → Exchange → Option Served} (hc : 0 < c.readSize)
    (hgo : ∀ c p x, 0 < c.readSize → P (go c p x))
    (hagain : ∀ c p x, 0 < c.readSize → ∀ s, again c p x = some s → P s)
    (hwaiting : ∀ c p x, 0 < c.readSize → ∀ s, waiting c p x = some s → P s)
    (hstep : c.takePortion g now p x go again waiting = some s) : P s :=
  takePortion_leads (Q := fun c _ => 0 < c.readSize) (fun _ _ _ => hc)
    (fun _ _ hc => readMore_reads g now p hc) (fun _ _ hc => hc) hgo hagain hwaiting hstep

theorem openBody_waits (hc : 0 < c.readSize) (hstep : c.openBody g now p x = some s) :
    s.Waits g := by
  refine takePortion_reads hc ?_ ?_ ?_ hstep
  · intro c p x hc
    unfold afterPortion
    split <;> exact enter_waits hc trivial
  all_goals
    intro c p x hc s hs
    cases hs
    exact enter_waits hc trivial

theorem probe_waits (hc : 0 < c.readSize) : (c.probe g now p x).Waits g := by
  have hreads := readMore_reads g now p hc
  have hnext : (if x.owner.isSome then Phase.collecting x else .serving x).Waits := by
    split <;> trivial
  unfold probe
  dsimp only
  split
  · exact enter_waits hc hnext
  · split
    all_goals
      next hread =>
        rw [hread] at hreads
        first | exact enter_waits hreads hnext | exact abort_waits hreads

theorem close_waits (hc : 0 < c.readSize) (hstep : c.close g now p = some s) : s.Waits g := by
  unfold close at hstep
  split at hstep
  · cases hstep
    exact abort_waits hc
  · dsimp only at hstep
    split at hstep
    · cases hstep
    · cases hstep
      exact abort_waits hc

theorem conclude_draws (hc : 0 < c.readSize) :
    (c.conclude g now p x after).Draws g after.pending? := by
  unfold conclude
  split
  · exact ⟨rfl, rfl, hc⟩
  · exact ⟨rfl, rfl, hc⟩
  · split <;> exact ⟨rfl, rfl, hc⟩

theorem drain_draws (hc : 0 < c.readSize) (hstep : c.drain g now p x after = some s) :
    s.Draws g after.pending? := by
  unfold drain at hstep
  split at hstep
  · cases hstep
    exact conclude_draws hc
  · cases hstep
    exact conclude_draws hc
  · refine takePortion_reads hc ?_ ?_ ?_ hstep
    · exact fun c p x hc => conclude_draws hc
    · intro c p x hc s hs
      cases hs
      exact ⟨rfl, rfl, hc⟩
    · intro c p x hc s hs
      cases hs
      exact conclude_draws hc

theorem Went.of_waits (hc : c.phase.pending? = none) (hlives : c.phase ≠ .ended) (h : s.Waits g) :
    Went g now c s :=
  .moved (h.phase.pending_none.trans hc.symm) (Or.inr h.phase) fun hended => (hlives hended).elim

theorem Went.of_draws (hasked : c.phase.asked? = none) (hlives : c.phase ≠ .ended)
    (h : s.Draws g c.phase.pending?) : Went g now c s :=
  .moved h.pending_eq (Or.inl hasked) fun hended => (hlives hended).elim

theorem answer_announces (hout : c.out = []) (r : Reply) :
    announced (c.answer g now p x r after).connection.out = 101 ↔ r.status = 101 := by
  show announced (c.out ++ _) = 101 ↔ _
  rw [hout, List.nil_append]
  exact Http.announced_switching _ _

/-- A reply after which no channel is pending is an answer and no more; 101 is none of these in a
version that has upgrades. -/
theorem answer_went {g' : Gateway} (hout : c.out = []) (hasked : c.phase.asked? = some x)
    (r : Reply) (hafter : after.pending? = none)
    (hstatus : r.status = 101 → x.head.version ≠ .http11) :
    Went g now c (c.answer g' now p x r after) := by
  refine .answered hasked rfl ?_ fun h => hstatus ((answer_announces hout r).mp h)
  split
  · split <;> rfl
  · exact hafter

theorem serve_went (hc : 0 < c.readSize) (hout : c.out = []) (hphase : c.phase = .serving x) :
    Went g now c (c.serve g now p x) ∧ (c.serve g now p x).Follows g := by
  have hasked : c.phase.asked? = some x := by
    rw [hphase]
    rfl
  have hkept := Gateway.route_tended g now x.head
  unfold serve
  split
  · next g' r hroute =>
    have hstatus := Gateway.route_status (congrArg Prod.snd hroute)
    rw [hroute] at hkept
    exact ⟨answer_went hout hasked r rfl (by omega), hkept, hc⟩
  · next g' owner r hroute =>
    obtain ⟨hstatus, howner⟩ := Gateway.route_channel (congrArg Prod.snd hroute)
    rw [hroute] at hkept
    by_cases hversion : x.head.version = .http11
    · rw [if_pos hversion]
      exact ⟨.granted hasked rfl hversion howner ((answer_announces hout r).mpr hstatus), hkept, hc⟩
    · rw [if_neg hversion]
      exact ⟨answer_went hout hasked r rfl fun _ => hversion, hkept, hc⟩
  · next g' owner hroute =>
    rw [hroute] at hkept
    dsimp only
    have hpending : c.phase.pending? = none := by
      rw [hphase]
      rfl
    have hends : c.phase = .ended → ∀ phase : Phase, phase = .ended := by
      rw [hphase]
      exact nofun
    split
    · exact ⟨.moved hpending.symm (Or.inr trivial) fun h => hends h _, hkept, hc⟩
    · exact ⟨.moved hpending.symm (Or.inr trivial) fun h => hends h _, hkept, hc⟩

theorem collect_went (hg : g.resources = .home) (hc : 0 < c.readSize) (hout : c.out = [])
    (hphase : c.phase = .collecting x) (hstep : c.collect g now p x = some s) :
    Went g now c s ∧ s.Follows g := by
  have hasked : c.phase.asked? = some x := by
    rw [hphase]
    rfl
  have hwaits : s.Waits g → Went g now c s ∧ s.Follows g := by
    intro h
    refine ⟨.of_waits ?_ ?_ h, h.follows⟩
    · rw [hphase]
      rfl
    · rw [hphase]
      exact nofun
  unfold collect at hstep
  split at hstep
  · cases hstep
    exact ⟨answer_went hout hasked _ rfl nofun, Gateway.Tended.refl g, hc⟩
  · split at hstep
    · refine hwaits (takePortion_reads hc ?_ ?_ ?_ hstep)
      · intro c p x hc
        unfold afterPortion
        split <;> exact enter_waits hc trivial
      · intro c p x hc s hs
        cases hs
        exact enter_waits hc trivial
      · intro c' p x hc s hs
        split at hs
        · cases hs
        · cases hs
          exact enter_waits hc trivial
    · next owner _ _ =>
      have hkept := g.serveResource_tended owner x.head x.content
      have hstatus := Gateway.serveResource_status hg owner x.head x.content
      generalize g.serveResource owner x.head x.content = served at hstep hkept hstatus
      cases hstep
      exact ⟨answer_went hout hasked _ rfl (by omega), hkept, hc⟩
    · cases hstep
      exact hwaits (abort_waits hc)

/-- What is left when a write fails or stalls. -/
theorem flush_rest (g : Gateway) (now : Nat) (p : Pipe) (c : Connection) :
    (c.flush g now p).2.2 = .ready true ∨ (c.flush g now p).1.out ≠ [] := by
  unfold flush
  dsimp only
  cases hprogress : (p.write c.out).2.2 with
  | done => exact Or.inl rfl
  | blocked => exact Or.inr fun hrest => nomatch hprogress.symm.trans (Pipe.write_done hrest)
  | failed => exact Or.inr fun hrest => nomatch hprogress.symm.trans (Pipe.write_done hrest)

/-- What a connection does next answers nothing, or answers as one of three kinds of steps do. -/
theorem step_went (hg : g.resources = .home) (hc : 0 < c.readSize)
    (hstep : c.step g now p = some s) : Went g now c s ∧ s.Follows g := by
  unfold step at hstep
  split at hstep
  · next hempty =>
    have hout : c.out = [] := List.isEmpty_iff.mp hempty
    unfold proceed at hstep
    cases hphase : c.phase with
    | head deadline =>
      rw [hphase] at hstep
      have h := takeHead_waits hc (hphase ▸ trivial) hstep
      exact ⟨.of_waits (hphase ▸ rfl) (hphase ▸ nofun) h, h.follows⟩
    | opening x =>
      rw [hphase] at hstep
      have h := openBody_waits hc hstep
      exact ⟨.of_waits (hphase ▸ rfl) (hphase ▸ nofun) h, h.follows⟩
    | probing x =>
      rw [hphase] at hstep
      cases hstep
      have h : (c.probe g now p x).Waits g := probe_waits hc
      exact ⟨.of_waits (hphase ▸ rfl) (hphase ▸ nofun) h, h.follows⟩
    | serving x =>
      rw [hphase] at hstep
      cases hstep
      exact serve_went hc hout hphase
    | collecting x =>
      rw [hphase] at hstep
      exact collect_went hg hc hout hphase hstep
    | replied x after =>
      rw [hphase] at hstep
      cases hstep
      have h : (c.enter g p (.draining x after)).Draws g after.pending? :=
        ⟨rfl, rfl, hc⟩
      exact ⟨.of_draws (hphase ▸ rfl) (hphase ▸ nofun) (hphase ▸ h), h.follows⟩
    | draining x after =>
      rw [hphase] at hstep
      have h := drain_draws hc hstep
      exact ⟨.of_draws (hphase ▸ rfl) (hphase ▸ nofun) (hphase ▸ h), h.follows⟩
    | closing =>
      rw [hphase] at hstep
      have h := close_waits hc hstep
      exact ⟨.of_waits (hphase ▸ rfl) (hphase ▸ nofun) h, h.follows⟩
    | handed owner =>
      rw [hphase] at hstep
      cases hstep
    | ended =>
      rw [hphase] at hstep
      cases hstep
  · have hphase := flush_phase g now p c
    have hrest := flush_rest g now p c
    have hreads : 0 < (c.flush g now p).1.readSize := hc
    have hsame : ∀ {c' : Connection} {p' : Pipe}, c'.phase = c.phase →
        Went g now c ⟨g, p', c'⟩ := by
      intro c' p' heq
      refine .moved (congrArg _ heq) ?_ fun hended => heq.trans hended
      show _ ∨ c'.phase.Waits
      rw [heq]
      cases c.phase <;> first | exact Or.inl rfl | exact Or.inr trivial
    split at hstep
    · next hflush =>
      rw [hflush] at hphase hreads
      cases hstep
      exact ⟨hsame hphase, Gateway.Tended.refl g, hreads⟩
    · next hflush =>
      rw [hflush] at hrest hreads
      cases hstep
      exact ⟨.dropped rfl (hrest.resolve_left nofun), Gateway.Tended.refl g, hreads⟩
    · next hflush =>
      rw [hflush] at hrest hreads
      cases hstep
      exact ⟨.dropped rfl (hrest.resolve_left nofun), Gateway.Tended.refl g, hreads⟩
    · next hflush =>
      rw [hflush] at hphase hreads
      split at hstep
      · cases hstep
        exact ⟨hsame hphase, Gateway.Tended.refl g, hreads⟩
      · cases hstep

end Connection

/-! ## On the way to a channel -/

namespace Connection

variable {g : Gateway} {now : Nat} {p p' : Pipe} {c c' : Connection}

/-- Reading more takes some of what has come in. -/
theorem readMore_lessens (hc : 0 < c.readSize) (h : c.readMore g now p = (c', p', .more)) :
    p'.incoming.length < p.incoming.length := by
  have hoctets : ∃ bs, p.read c.readSize = (p', .ready (.octets bs)) := by
    unfold readMore at h
    generalize p.read c.readSize = read at h ⊢
    obtain ⟨q, answer⟩ := read
    cases answer with
    | pending =>
      unfold Stream.guard at h
      dsimp only at h
      by_cases hlate : (c.timers.get .read).getD (now + (limits g).of .read) ≤ now
      · rw [if_pos hlate] at h
        cases h
      · rw [if_neg hlate] at h
        cases h
    | ready receipt =>
      cases receipt with
      | octets bs =>
        cases h
        exact ⟨bs, rfl⟩
      | ended => cases h
      | failed => cases h
  obtain ⟨bs, hread⟩ := hoctets
  obtain ⟨hsome, hincoming⟩ := Pipe.read_takes hc hread
  have hpos := List.length_pos_iff.mpr hsome
  rw [hincoming, List.length_append]
  omega

theorem readMore_out (g : Gateway) (now : Nat) (p : Pipe) (c : Connection) :
    (c.readMore g now p).1.out = c.out := by
  unfold readMore adapt
  dsimp only
  split
  · split
    · rfl
    · split
      · split <;> rfl
      · rfl
  all_goals rfl

/-- A connection whose reply is written passes over what is left of the body, a portion at a time,
and then is handed on. -/
theorem drain_next (g : Gateway) (now : Nat) (p : Pipe) (x : Exchange) (owner : Principal)
    (hc : 0 < c.readSize) :
    ∃ s, c.drain g now p x (.channel owner) = some s ∧ s.gateway = g ∧
      s.connection.out = c.out ∧ 0 < s.connection.readSize ∧
      (s.connection.phase = .handed owner ∨
        (∃ x', s.connection.phase = .draining x' (.channel owner)) ∧
          s.pipe.incoming.length < p.incoming.length) := by
  unfold drain
  split
  · exact ⟨_, rfl, rfl, rfl, hc, Or.inl rfl⟩
  · exact ⟨_, rfl, rfl, rfl, hc, Or.inl rfl⟩
  · unfold takePortion
    dsimp only
    split
    · have hsize : 0 < { c with buffer := (x.body.take c.buffer).2.1 }.readSize := hc
      have hout := readMore_out g now p { c with buffer := (x.body.take c.buffer).2.1 }
      have hreads := readMore_reads g now p hsize
      split
      · next hread =>
        have hless := readMore_lessens hsize hread
        rw [hread] at hout hreads
        exact ⟨_, rfl, rfl, hout, hreads, Or.inr ⟨⟨_, rfl⟩, hless⟩⟩
      all_goals
        next hread =>
          rw [hread] at hout hreads
          exact ⟨_, rfl, rfl, hout, hreads, Or.inl rfl⟩
    · exact ⟨_, rfl, rfl, rfl, hc, Or.inl rfl⟩

/-- A client that reads takes the whole reply at once. -/
theorem flush_of_reads (g : Gateway) (now : Nat) (c : Connection) (hp : p.Reads) :
    ∃ p' c', c.flush g now p = (c', p', .ready true) ∧ c'.out = [] ∧ c'.phase = c.phase ∧
      c'.readSize = c.readSize := by
  obtain ⟨out, hwrite⟩ := Pipe.write_of_reads hp c.out
  unfold flush
  rw [hwrite]
  exact ⟨_, _, rfl, rfl, rfl, rfl⟩

end Connection

end DeviceGateway
