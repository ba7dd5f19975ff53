import DeviceGateway.Gateway.Network
import DeviceGateway.Proofs.Access.Entitled
import DeviceGateway.Proofs.Channel.Owners

/-
  Nobody gains a level by authenticating. All whom a gateway knows are the accounts of its settings,
  and whom a header stands for is all that a request brings in: tokens are issued to such
  principals, bodies are read for them, and channels are handed on to them
  (`Connection.step_honest`). So however many tokens are exchanged for others, in whatever order
  connections take their steps, and whatever time it is, everybody has the level of the last account
  of the name (`everybody_is_entitled`).
-/

open DeviceGateway.Stream (Pipe Faults)

namespace DeviceGateway

open Http (Head Terms Body Portion Reply)

/-! ## Requests -/

namespace Gateway

/-- Does the gateway know these accounts, with tokens and channels only of principals who have the
level of their account? -/
structure Honest (accounts : List Account) (g : Gateway) : Prop where
  credentials : g.credentials.Honest accounts
  commands_eq : g.commands = Home.commands
  owners : ∀ id s, g.home.sessions.get? id = some s → s.owner.Entitled accounts

variable {accounts : List Account} {g : Gateway}

theorem Honest.withHome (hg : g.Honest accounts) {home : Home}
    (h : Channel.Sessions.OwnersKept g.home.sessions home.sessions) :
    { g with home }.Honest accounts := by
  refine ⟨hg.credentials, hg.commands_eq, ?_⟩
  intro id s' hs'
  obtain ⟨s, hs, howner⟩ := h id s' hs'
  rw [howner]
  exact hg.owners id s hs

theorem Honest.authenticate (hg : g.Honest accounts) (now : Nat) (head : Head) :
    (g.authenticate now head).1.Honest accounts ∧
      ∀ p, (g.authenticate now head).2 = some p → p.Entitled accounts := by
  obtain ⟨hstore, hp⟩ := hg.credentials.authorize now (head.headers.text? "authorization")
  refine ⟨⟨hstore, hg.commands_eq, hg.owners⟩, ?_⟩
  intro p h
  unfold Gateway.authenticate at h
  dsimp only at h
  cases hanswer : (g.credentials.authorize now (head.headers.text? "authorization")).2 with
  | error r =>
    rw [hanswer] at h
    cases h
  | ok q =>
    rw [hanswer] at h
    cases h
    exact hp p hanswer

theorem Honest.issueToken (hg : g.Honest accounts) (now : Nat) {owner : Principal}
    (howner : owner.Entitled accounts) : (g.issueToken now owner).1.Honest accounts := by
  unfold Gateway.issueToken
  split
  · exact ⟨hg.credentials.issue howner now _, hg.commands_eq, hg.owners⟩
  · exact hg

/-- For whom a request goes on, if for anybody. -/
def owner? : Routed → Option Principal
  | .reply _ => none
  | .resource owner => some owner
  | .channel owner _ => some owner

/-- A request leaves the gateway honest, and goes on only for a principal whom it has
authenticated. -/
theorem Honest.route (hg : g.Honest accounts) (now : Nat) (head : Head) :
    (g.route now head).1.Honest accounts ∧
      ∀ p, owner? (g.route now head).2 = some p → p.Entitled accounts := by
  obtain ⟨hkept, hyield⟩ := hg.authenticate now head
  unfold Gateway.route
  split
  · split
    · next g' hauth =>
      rw [hauth] at hkept
      exact ⟨hkept, fun p h => nomatch h⟩
    · next g' owner hauth =>
      rw [hauth] at hkept hyield
      exact ⟨hkept, fun p h => Option.some.inj h ▸ hyield owner rfl⟩
  · split
    · next g' hauth =>
      rw [hauth] at hkept
      exact ⟨hkept, fun p h => nomatch h⟩
    · next g' owner hauth =>
      rw [hauth] at hkept hyield
      exact ⟨hkept.issueToken now (hyield owner rfl), fun p h => nomatch h⟩
  · split
    · exact ⟨hg, fun p h => nomatch h⟩
    · split
      · next g' hauth =>
        rw [hauth] at hkept
        exact ⟨hkept, fun p h => nomatch h⟩
      · next g' owner hauth =>
        rw [hauth] at hkept hyield
        exact ⟨hkept, fun p h => Option.some.inj h ▸ hyield owner rfl⟩
  · exact ⟨hg, fun p h => nomatch h⟩
  · exact ⟨hg.withHome (Channel.Sessions.OwnersKept.refl g.home.sessions), fun p h => nomatch h⟩
  · exact ⟨hg, fun p h => nomatch h⟩

theorem Honest.serveResource (hg : g.Honest accounts) (owner : Principal) (head : Head)
    (body : Bytes) : (g.serveResource owner head body).1.Honest accounts := by
  refine hg.withHome ?_
  show Channel.Sessions.OwnersKept g.home.sessions
    (g.resources.serve g.home owner (resourceRequest head body)).1.sessions
  unfold Resources.serve
  split
  · exact (Home.serve_tended g.home owner (resourceRequest head body)).owners
  all_goals exact Channel.Sessions.OwnersKept.refl _

end Gateway

/-! ## Connections -/

/-- Is the body, if it is read for somebody, read for a principal who has the level of the
account? -/
def Exchange.Honest (accounts : List Account) (x : Exchange) : Prop :=
  ∀ p, x.owner = some p → p.Entitled accounts

def After.Honest (accounts : List Account) : After → Prop
  | .channel owner => owner.Entitled accounts
  | .next | .close => True

/-- Has everybody whom the phase is for the level of the account? -/
def Phase.Honest (accounts : List Account) : Phase → Prop
  | .opening x | .probing x | .serving x | .collecting x => x.Honest accounts
  | .replied x after | .draining x after => x.Honest accounts ∧ after.Honest accounts
  | .handed owner => owner.Entitled accounts
  | .head _ | .closing | .ended => True

structure Served.Honest (accounts : List Account) (s : Served) : Prop where
  gateway : s.gateway.Honest accounts
  phase : s.connection.phase.Honest accounts

namespace Connection

variable {accounts : List Account} {g : Gateway} {now : Nat} {p : Pipe} {c : Connection}
  {x : Exchange} {after : After} {s : Served}

theorem readMore_phase (g : Gateway) (now : Nat) (p : Pipe) (c : Connection) :
    (c.readMore g now p).1.phase = c.phase := by
  unfold readMore adapt
  dsimp only
  split
  · split
    · rfl
    · split
      · split <;> rfl
      · rfl
  all_goals rfl

theorem flush_phase (g : Gateway) (now : Nat) (p : Pipe) (c : Connection) :
    (c.flush g now p).1.phase = c.phase := rfl

theorem enter_honest (hg : g.Honest accounts) {phase : Phase} (h : phase.Honest accounts) :
    (c.enter g p phase).Honest accounts := ⟨hg, h⟩

theorem abort_honest (hg : g.Honest accounts) : (c.abort g p).Honest accounts := ⟨hg, trivial⟩

theorem refuse_honest (hg : g.Honest accounts) (status : Nat) :
    (c.refuse g now p status).Honest accounts := by
  unfold refuse
  split
  · exact abort_honest hg
  · exact enter_honest hg trivial

theorem begin_honest (hg : g.Honest accounts) (head : Head) (terms : Terms) (rest : Bytes) :
    (c.begin g p head terms rest).Honest accounts := by
  have hnew : (Exchange.start head terms).Honest accounts := fun p h => nomatch h
  unfold begin
  dsimp only
  split
  all_goals exact enter_honest hg hnew

/-- Waiting for more of a head leaves the phase as it is, or ends the connection. -/
theorem awaitHead_leads {Q : Connection → Prop} {P : Served → Prop} {deadline : Nat}
    (hread : Q (c.readMore g now p).1)
    (hstays : ∀ c' p', Q c' → c'.phase = c.phase → P ⟨g, p', c'⟩)
    (hcloses : ∀ c' p', Q c' → P (c'.enter g p' .closing))
    (haborts : ∀ c' p', Q c' → P (c'.abort g p'))
    (hstep : c.awaitHead g now p deadline = some s) : P s := by
  have hphase := readMore_phase g now p c
  have hleave : ∀ (c' : Connection) (p' : Pipe), Q c' →
      P (if c'.buffer.all isLineEnd then c'.enter g p' .closing else c'.abort g p') := by
    intro c' p' hc'
    split
    · exact hcloses c' p' hc'
    · exact haborts c' p' hc'
  unfold awaitHead at hstep
  dsimp only at hstep
  split at hstep
  · next hmore =>
    rw [hmore] at hphase hread
    cases hstep
    exact hstays _ _ hread hphase
  · next hnothing =>
    rw [hnothing] at hphase hread
    split at hstep
    · cases hstep
      exact haborts _ _ hread
    · split at hstep
      · cases hstep
      · cases hstep
        exact hstays _ _ hread hphase
  · next hended =>
    rw [hended] at hread
    cases hstep
    exact hleave _ _ hread
  · next hfailed =>
    rw [hfailed] at hread
    cases hstep
    exact hleave _ _ hread

/-- A head is refused, or a request begins with it, or more of it is waited for. -/
theorem takeHead_leads {P : Served → Prop} {deadline : Nat}
    (hrefuse : ∀ status, P (c.refuse g now p status))
    (hbegin : ∀ head terms rest, P (c.begin g p head terms rest))
    (hawait : ∀ seen s, { c with seen }.awaitHead g now p deadline = some s → P s)
    (hstep : c.takeHead g now p deadline = some s) : P s := by
  have hwait : ∀ {s}, (if Http.maxHeadBytes ≤ c.buffer.length then some (c.refuse g now p 431)
      else { c with seen := if c.buffer.isEmpty then none else some c.buffer.length }.awaitHead
        g now p deadline) = some s → P s := by
    intro s hwait
    split at hwait
    · cases hwait
      exact hrefuse _
    · exact hawait _ s hwait
  unfold takeHead at hstep
  dsimp only at hstep
  split at hstep
  · split at hstep
    · cases hstep
      exact hbegin _ _ _
    · exact hwait hstep
    · cases hstep
      exact hrefuse _
    · cases hstep
      exact hrefuse _
  · exact hwait hstep

theorem takeHead_honest (hg : g.Honest accounts) (hc : c.phase.Honest accounts) {deadline : Nat}
    (hstep : c.takeHead g now p deadline = some s) : s.Honest accounts := by
  refine takeHead_leads (refuse_honest hg) (begin_honest hg) (fun seen s hawait => ?_) hstep
  refine awaitHead_leads (Q := fun _ => True) trivial ?_ ?_ ?_ hawait
  · intro c' p' _ hphase
    refine ⟨hg, ?_⟩
    rw [hphase]
    exact hc
  · exact fun c' p' _ => enter_honest hg trivial
  · exact fun c' p' _ => abort_honest hg

/-- What a portion of a body leads to is what its three outcomes lead to. -/
theorem takePortion_leads {Q : Connection → Exchange → Prop} {P : Served → Prop}
    {go : Connection → Pipe → Exchange → Served}
    {again waiting : Connection → Pipe → Exchange → Option Served}
    (htaking : ∀ buffer body portion, Q { c with buffer } (x.taking body portion))
    (hread : ∀ c x, Q c x → Q (c.readMore g now p).1 x)
    (hbreaking : ∀ c x, Q c x → Q c x.breaking)
    (hgo : ∀ c p x, Q c x → P (go c p x))
    (hagain : ∀ c p x, Q c x → ∀ s, again c p x = some s → P s)
    (hwaiting : ∀ c p x, Q c x → ∀ s, waiting c p x = some s → P s)
    (hstep : c.takePortion g now p x go again waiting = some s) : P s := by
  unfold takePortion at hstep
  dsimp only at hstep
  have htaken := htaking (x.body.take c.buffer).2.1 (x.body.take c.buffer).1
    (x.body.take c.buffer).2.2
  split at hstep
  · have hmore := hread _ _ htaken
    split at hstep
    · next hreading =>
      rw [hreading] at hmore
      exact hagain _ _ _ hmore s hstep
    · next hreading =>
      rw [hreading] at hmore
      exact hwaiting _ _ _ hmore s hstep
    · next hreading =>
      rw [hreading] at hmore
      cases hstep
      exact hgo _ _ _ (hbreaking _ _ hmore)
    · next hreading =>
      rw [hreading] at hmore
      cases hstep
      exact hgo _ _ _ (hbreaking _ _ hmore)
  · cases hstep
    exact hgo _ _ _ htaken

/-- Taking a portion of a body changes nothing about whom it is read for. -/
theorem takePortion_honest {go : Connection → Pipe → Exchange → Served}
    {again waiting : Connection → Pipe → Exchange → Option Served} (hx : x.Honest accounts)
    (hgo : ∀ c p x, x.Honest accounts → (go c p x).Honest accounts)
    (hagain : ∀ c p x, x.Honest accounts → ∀ s, again c p x = some s → s.Honest accounts)
    (hwaiting : ∀ c p x, x.Honest accounts → ∀ s, waiting c p x = some s → s.Honest accounts)
    (hstep : c.takePortion g now p x go again waiting = some s) : s.Honest accounts := by
  refine takePortion_leads (Q := fun _ x => x.Honest accounts) ?_ (fun _ _ hx => hx)
    (fun _ _ hx => hx) hgo hagain hwaiting hstep
  intro buffer body portion
  cases portion <;> exact hx

theorem openBody_honest (hg : g.Honest accounts) (hx : x.Honest accounts)
    (hstep : c.openBody g now p x = some s) : s.Honest accounts := by
  refine takePortion_honest hx ?_ ?_ ?_ hstep
  · intro c p x hx
    unfold afterPortion
    split <;> exact enter_honest hg hx
  all_goals
    intro c p x hx s hs
    cases hs
    exact enter_honest hg hx

theorem probe_honest (hg : g.Honest accounts) (hx : x.Honest accounts) :
    (c.probe g now p x).Honest accounts := by
  have hnext : (if x.owner.isSome then Phase.collecting x else .serving x).Honest accounts := by
    split <;> exact hx
  unfold probe
  dsimp only
  split
  · exact enter_honest hg hnext
  · split
    · exact enter_honest hg hnext
    · exact enter_honest hg hnext
    · exact abort_honest hg
    · exact abort_honest hg

theorem answer_honest (hg : g.Honest accounts) (hx : x.Honest accounts) (r : Reply)
    (hafter : after.Honest accounts) : (c.answer g now p x r after).Honest accounts := by
  unfold answer
  refine enter_honest hg ⟨hx, ?_⟩
  split
  · split <;> trivial
  · exact hafter

theorem serve_honest (hg : g.Honest accounts) (hx : x.Honest accounts) :
    (c.serve g now p x).Honest accounts := by
  obtain ⟨hkept, howner⟩ := hg.route now x.head
  unfold serve
  split
  · next g' r hroute =>
    rw [hroute] at hkept
    exact answer_honest hkept hx r trivial
  · next g' owner r hroute =>
    rw [hroute] at hkept howner
    refine answer_honest hkept hx r ?_
    split
    · exact howner owner rfl
    · trivial
  · next g' owner hroute =>
    rw [hroute] at hkept howner
    have hfor : { x with owner := some owner }.Honest accounts :=
      fun p h => Option.some.inj h ▸ howner owner rfl
    dsimp only
    split
    · exact enter_honest hkept hfor
    · exact enter_honest hkept hfor

theorem collect_honest (hg : g.Honest accounts) (hx : x.Honest accounts)
    (hstep : c.collect g now p x = some s) : s.Honest accounts := by
  unfold collect at hstep
  split at hstep
  · cases hstep
    exact answer_honest hg hx _ trivial
  · split at hstep
    · refine takePortion_honest hx ?_ ?_ ?_ hstep
      · intro c p x hx
        unfold afterPortion
        split <;> exact enter_honest hg hx
      · intro c p x hx s hs
        cases hs
        exact enter_honest hg hx
      · intro c' p x hx s hs
        split at hs
        · cases hs
        · cases hs
          exact enter_honest hg hx
    · cases hstep
      exact answer_honest (hg.serveResource _ _ _) hx _ trivial
    · cases hstep
      exact abort_honest hg

theorem conclude_honest (hg : g.Honest accounts) (hafter : after.Honest accounts) :
    (c.conclude g now p x after).Honest accounts := by
  unfold conclude
  split
  · exact enter_honest hg hafter
  · exact enter_honest hg trivial
  · split <;> exact enter_honest hg trivial

theorem drain_honest (hg : g.Honest accounts) (hx : x.Honest accounts)
    (hafter : after.Honest accounts) (hstep : c.drain g now p x after = some s) :
    s.Honest accounts := by
  unfold drain at hstep
  split at hstep
  · cases hstep
    exact conclude_honest hg hafter
  · cases hstep
    exact conclude_honest hg hafter
  · refine takePortion_honest hx ?_ ?_ ?_ hstep
    · exact fun c p x _ => conclude_honest hg hafter
    · intro c p x hx s hs
      cases hs
      exact enter_honest hg ⟨hx, hafter⟩
    · intro c p x _ s hs
      cases hs
      exact conclude_honest hg hafter

theorem close_honest (hg : g.Honest accounts) (hstep : c.close g now p = some s) :
    s.Honest accounts := by
  unfold close at hstep
  split at hstep
  · cases hstep
    exact abort_honest hg
  · dsimp only at hstep
    split at hstep
    · cases hstep
    · cases hstep
      exact abort_honest hg

/-- Whatever a connection does next, it is for principals who have the level of their account. -/
theorem step_honest (hg : g.Honest accounts) (hc : c.phase.Honest accounts)
    (hstep : c.step g now p = some s) : s.Honest accounts := by
  unfold step at hstep
  split at hstep
  · unfold proceed at hstep
    cases hphase : c.phase with
    | head deadline =>
      rw [hphase] at hstep
      exact takeHead_honest hg hc hstep
    | opening x =>
      rw [hphase] at hstep hc
      exact openBody_honest hg hc hstep
    | probing x =>
      rw [hphase] at hstep hc
      cases hstep
      exact probe_honest hg hc
    | serving x =>
      rw [hphase] at hstep hc
      cases hstep
      exact serve_honest hg hc
    | collecting x =>
      rw [hphase] at hstep hc
      exact collect_honest hg hc hstep
    | replied x after =>
      rw [hphase] at hstep hc
      cases hstep
      exact enter_honest hg hc
    | draining x after =>
      rw [hphase] at hstep hc
      exact drain_honest hg hc.1 hc.2 hstep
    | closing =>
      rw [hphase] at hstep
      exact close_honest hg hstep
    | handed owner =>
      rw [hphase] at hstep
      cases hstep
    | ended =>
      rw [hphase] at hstep
      cases hstep
  · have hphase := flush_phase g now p c
    split at hstep
    · next hflush =>
      rw [hflush] at hphase
      cases hstep
      exact ⟨hg, hphase ▸ hc⟩
    · cases hstep
      exact abort_honest hg
    · cases hstep
      exact abort_honest hg
    · next hflush =>
      rw [hflush] at hphase
      split at hstep
      · cases hstep
        exact ⟨hg, hphase ▸ hc⟩
      · cases hstep

end Connection

/-! ## Channels -/

namespace Link

def Honest (accounts : List Account) (l : Link) : Prop :=
  match l.server with
  | .http c => c.phase.Honest accounts
  | .channel _ _ => True

variable {accounts : List Account} {g g' : Gateway} {now : Nat} {l l' : Link}

/-- A channel is for the principal to whom its connection was handed on. -/
theorem openChannel_honest (hg : g.Honest accounts) (pipe : Pipe) (leftover : Bytes)
    {owner : Principal} (howner : owner.Entitled accounts) :
    (openChannel g pipe leftover owner).1.Honest accounts ∧
      (openChannel g pipe leftover owner).2.Honest accounts := by
  refine ⟨⟨hg.credentials, hg.commands_eq, ?_⟩, trivial⟩
  intro id s hs
  have hall : (g.home.sessions.all ++ [{ owner : Channel.Session }])[id]? = some s := hs
  rcases List.mem_append.mp (List.mem_of_getElem? hall) with hold | hnew
  · obtain ⟨j, hj⟩ := List.mem_iff_getElem?.mp hold
    exact hg.owners j s hj
  · rw [List.mem_singleton.mp hnew]
    exact howner

theorem stepChannel_honest (hg : g.Honest accounts) {t : Channel.Task}
    (hstep : l.stepChannel g now t = some (g', l')) :
    g'.Honest accounts ∧ l'.Honest accounts := by
  unfold stepChannel at hstep
  obtain ⟨taken, hturn, heq⟩ := Option.map_eq_some_iff.mp hstep
  have hkept := hg.withHome (Channel.Task.turn_tended hg.commands_eq hturn).owners
  cases heq
  refine ⟨?_, trivial⟩
  split
  · refine hkept.withHome (Channel.Sessions.Tended.owners ?_)
    exact Channel.Sessions.tended_modify _ _ fun _ _ => rfl
  · exact hkept

theorem step_honest (hg : g.Honest accounts) (hl : l.Honest accounts)
    (hstep : l.step g now = some (g', l')) : g'.Honest accounts ∧ l'.Honest accounts := by
  unfold step at hstep
  unfold Honest at hl
  cases hserver : l.server with
  | http c =>
    rw [hserver] at hstep hl
    dsimp only at hstep hl
    split at hstep
    · next owner hphase =>
      rw [hphase] at hl
      cases hstep
      exact openChannel_honest hg _ _ hl
    · obtain ⟨s, hs, heq⟩ := Option.map_eq_some_iff.mp hstep
      have hserved := Connection.step_honest hg hl hs
      cases heq
      exact ⟨hserved.gateway, hserved.phase⟩
  | channel t running =>
    rw [hserver] at hstep
    dsimp only at hstep
    split at hstep
    · exact stepChannel_honest hg hstep
    · cases hstep

end Link

/-! ## Runs -/

namespace Network

/-- Something that happens to a gateway and its clients. -/
inductive Event
  /-- A client connects. -/
  | connect (name : String) (faults : Faults)
  /-- One of the connections takes a step, if it can. -/
  | step (index : Nat)
  /-- A client, or the network, does something to a pipe: octets come and go, or it breaks. -/
  | onPipe (name : String) (f : Pipe → Pipe)
  /-- It is another time. -/
  | clock (now : Nat)
  | trigger

def stepAt (n : Network) (index : Nat) : Network :=
  match n.links[index]? with
  | none => n
  | some (name, l) =>
    match l.step n.gateway n.now with
    | none => n
    | some (gateway, l') => { n with gateway, links := n.links.set index (name, l') }

def perform (n : Network) : Event → Network
  | .connect name faults => n.connect name faults
  | .step index => n.stepAt index
  | .onPipe name f => n.onPipe name f
  | .clock now => { n with now }
  | .trigger => n.trigger

def performAll (n : Network) (events : List Event) : Network := events.foldl perform n

structure Honest (accounts : List Account) (n : Network) : Prop where
  gateway : n.gateway.Honest accounts
  links : ∀ e ∈ n.links, e.2.Honest accounts

variable {accounts : List Account} {n : Network}

theorem Honest.stepAt (hn : n.Honest accounts) (index : Nat) :
    (n.stepAt index).Honest accounts := by
  unfold Network.stepAt
  split
  · exact hn
  · next name l hget =>
    have hl := hn.links _ (List.mem_of_getElem? hget)
    split
    · exact hn
    · next g' l' hstep =>
      obtain ⟨hg', hl'⟩ := Link.step_honest hn.gateway hl hstep
      refine ⟨hg', fun e he => ?_⟩
      rcases List.mem_or_eq_of_mem_set he with hold | hnew
      · exact hn.links e hold
      · rw [hnew]
        exact hl'

theorem Honest.perform (hn : n.Honest accounts) (event : Event) :
    (n.perform event).Honest accounts := by
  cases event with
  | connect name faults =>
    refine ⟨hn.gateway, fun e he => ?_⟩
    rcases List.mem_append.mp he with hold | hnew
    · exact hn.links e hold
    · rw [List.mem_singleton.mp hnew]
      trivial
  | step index => exact hn.stepAt index
  | onPipe name f =>
    refine ⟨hn.gateway, fun e he => ?_⟩
    obtain ⟨⟨k, l⟩, hold, rfl⟩ := List.mem_map.mp he
    have hl := hn.links _ hold
    dsimp only
    split
    · exact hl
    · exact hl
  | clock now => exact ⟨hn.gateway, hn.links⟩
  | trigger => exact ⟨⟨hn.gateway.credentials, hn.gateway.commands_eq, hn.gateway.owners⟩, hn.links⟩

theorem Honest.performAll (hn : n.Honest accounts) (events : List Event) :
    (n.performAll events).Honest accounts := by
  induction events generalizing n with
  | nil => exact hn
  | cons event events ih => exact ih (hn.perform event)

/-- A gateway before the first client has connected. -/
def opened (s : Settings) (files : Files.Tree) (tokenText : Nat → String) : Network :=
  { gateway := Gateway.ofSettings s files tokenText }

theorem opened_honest (s : Settings) (files : Files.Tree) (tokenText : Nat → String) :
    (opened s files tokenText).Honest s.users :=
  ⟨⟨⟨rfl, fun _ ht => nomatch ht⟩, rfl, fun _ _ hs => nomatch hs⟩, fun _ he => nomatch he⟩

/-- Whatever clients do and however their connections take turns, nobody is taken for more than an
account gives: whom a header stands for, for whom a request goes on, whom a connection is for and
whom a channel acts for has the name and the level of the last account of that name. -/
theorem everybody_is_entitled (s : Settings) (files : Files.Tree) (tokenText : Nat → String)
    (events : List Event) :
    let n := (opened s files tokenText).performAll events
    (∀ now head p, (n.gateway.authenticate now head).2 = some p → p.Entitled s.users) ∧
    (∀ now head p, Gateway.owner? (n.gateway.route now head).2 = some p → p.Entitled s.users) ∧
    (∀ e ∈ n.links, e.2.Honest s.users) ∧
    (∀ id x, n.gateway.sessions.get? id = some x → x.owner.Entitled s.users) := by
  intro n
  have hn : n.Honest s.users := (opened_honest s files tokenText).performAll events
  refine ⟨?_, ?_, hn.links, hn.gateway.owners⟩
  · exact fun now head => (hn.gateway.authenticate now head).2
  · exact fun now head => (hn.gateway.route now head).2

/-- Two accounts of one name. -/
def annTwice : Settings :=
  { users := [⟨"ann", "old", .admin⟩, ⟨"bob", "b", .control⟩, ⟨"ann", "new", .guest⟩] }

/-- A request for a token. -/
def tokenRequest (credentials : String) : Bytes :=
  utf8 ("GET /auth HTTP/1.1\r\nAuthorization: " ++ credentials ++ "\r\n\r\n")

/-- A password is given for a token, and that token for another one. -/
def twoExchanges : List Event :=
  [.connect "c" {}, .onPipe "c" (·.send (tokenRequest "Basic YW5uOm5ldw=="))] ++
    List.replicate 8 (.step 0) ++ [.onPipe "c" (·.send (tokenRequest "Bearer first"))] ++
    List.replicate 8 (.step 0)

theorem twoExchanges_entitled :
    let n := (opened annTwice {} fun k => if k = 0 then "first" else "second").performAll
      twoExchanges
    let head : Head :=
      { method := "GET", path := "/ws"
        headers := [⟨"authorization", utf8 "Bearer second"⟩] }
    (n.gateway.authenticate 7 head).2 = some ⟨"ann", .guest⟩ ∧
      Principal.Entitled annTwice.users ⟨"ann", .guest⟩ := by
  intro n head
  have hsecond : (n.gateway.authenticate 7 head).2 = some ⟨"ann", .guest⟩ := by decide +kernel
  exact ⟨hsecond, (everybody_is_entitled annTwice {} _ twoExchanges).1 7 head _ hsecond⟩

end Network

end DeviceGateway
