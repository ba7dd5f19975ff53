import DeviceGateway.Proofs.Gateway.Steps

/-
  From 101 to a channel. A connection is watched through any run of a gateway with its clients: what
  it answers, that it becomes a channel, which sessions its steps register, and that it ends. An
  answer of 101 to a request in a version with upgrades is its last, and is followed by one channel,
  opened and registered once, for whom the credentials of the request stood for, unless the answer
  itself cannot be written; no other answer is followed by any
  (`Network.switching_opens_channel`). The version is not looked at when the answer is made, so a
  request in a version without upgrades gets its 101 and no channel
  (`Network.oldUpgrade_opens_nothing`).
-/

open DeviceGateway.Stream (Pipe Faults)

namespace DeviceGateway

open Http (Head announced)

/-! ## What is to be seen of a connection -/

/-- An answer: the request, whom its credentials stood for, and the status that was put out. -/
structure Answer where
  head : Head
  whom : Option Principal
  status : Nat
  deriving DecidableEq, Repr

/-- Does the answer change the protocol, for a request in a version that has upgrades? -/
def Answer.Switches (a : Answer) : Prop := a.status = 101 ∧ a.head.version = .http11

/-- Something that is to be seen of a connection. -/
inductive Note
  | answered (a : Answer)
  /-- It becomes a channel: the session, and whom that acts for. -/
  | opened (session : Nat) (owner : Option Principal)
  /-- A session comes to the registry. -/
  | registered (session : Nat)
  /-- It ends, and so much is left unwritten. -/
  | ended (rest : Bytes)
  deriving DecidableEq, Repr

/-- What is to be seen when a connection has gone on. -/
def Connection.told? (g : Gateway) (now : Nat) (c c' : Connection) : Option Note :=
  match c.phase.asked?, c'.phase with
  | some x, .replied _ _ =>
    some (.answered
      { head := x.head, whom := (g.authenticate now x.head).2, status := announced c'.out })
  | _, .ended => if c.phase matches .ended then none else some (.ended c'.out)
  | _, _ => none

namespace Connection

variable {g : Gateway} {now : Nat} {c c' : Connection} {x : Exchange} {after : After}

theorem told_answer (hasked : c.phase.asked? = some x) (hphase : c'.phase = .replied x after) :
    c.told? g now c' = some (.answered
      { head := x.head, whom := (g.authenticate now x.head).2, status := announced c'.out }) := by
  unfold told?
  rw [hasked, hphase]

theorem told_end (hlives : c.phase ≠ .ended) (hphase : c'.phase = .ended) :
    c.told? g now c' = some (.ended c'.out) := by
  unfold told?
  rw [hphase]
  cases hc : c.phase with
  | ended => exact absurd hc hlives
  | _ => rfl

theorem told_nothing (hsilent : c.phase.asked? = none ∨ c'.phase.Waits)
    (hends : c'.phase = .ended → c.phase = .ended) : c.told? g now c' = none := by
  unfold told?
  cases hphase : c'.phase with
  | ended =>
    rw [hends hphase]
    rfl
  | replied x after =>
    rw [hphase] at hsilent
    rw [hsilent.resolve_right id]
  | _ => cases c.phase <;> rfl

/-- A connection that has ended stays so and tells nothing more. -/
theorem Went.of_ended {s : Served} (hwent : Went g now c s) (hphase : c.phase = .ended) :
    s.connection.phase = .ended ∧ c.told? g now s.connection = none := by
  have hasked : c.phase.asked? = none := by
    rw [hphase]
    rfl
  refine ⟨?_, told_nothing (Or.inl hasked) fun _ => hphase⟩
  cases hwent with
  | moved _ _ hends => exact hends hphase
  | dropped hended _ => exact hended
  | granted hsome => cases hasked.symm.trans hsome
  | answered hsome => cases hasked.symm.trans hsome

end Connection

namespace Link

/-- What is to be seen of a step that has made `g'` of the gateway and `l'` of the link. -/
def notes (g : Gateway) (now : Nat) (l : Link) (g' : Gateway) (l' : Link) : List Note :=
  let told : Option Note := match l.server, l'.server with
    | .http c, .http c' => c.told? g now c'
    | .http _, .channel t _ =>
      some (.opened t.session ((g'.sessions.get? t.session).map (·.owner)))
    | .channel _ _, _ => none
  told.toList ++ (g.sessions.joined g'.sessions).map .registered

end Link

/-- What has been seen of a connection, and what has become of it: as long as no answer has changed
its protocol, it is open for the next request or has ended; one that has is the last, and the
connection is on its way to a channel for whom the request was from, has become that channel, or
has ended with some of the answer unwritten. -/
inductive Story (ss : Channel.Sessions) : List Note → Server → Prop
  | asking {answers : List Answer} {c : Connection} (hanswers : ∀ a ∈ answers, ¬ a.Switches)
      (hpending : c.phase.pending? = none) (hlives : c.phase ≠ .ended) :
      Story ss (answers.map .answered) (.http c)
  | parted {answers : List Answer} {c : Connection} {rest : Bytes}
      (hanswers : ∀ a ∈ answers, ¬ a.Switches) (hphase : c.phase = .ended) :
      Story ss (answers.map .answered ++ [.ended rest]) (.http c)
  | granted {answers : List Answer} {a : Answer} {owner : Principal} {c : Connection}
      (hanswers : ∀ a ∈ answers, ¬ a.Switches) (ha : a.Switches) (howner : a.whom = some owner)
      (hpending : c.phase.pending? = some owner) :
      Story ss (answers.map .answered ++ [.answered a]) (.http c)
  | broken {answers : List Answer} {a : Answer} {c : Connection} {rest : Bytes}
      (hanswers : ∀ a ∈ answers, ¬ a.Switches) (ha : a.Switches) (hphase : c.phase = .ended)
      (hrest : rest ≠ []) :
      Story ss (answers.map .answered ++ [.answered a, .ended rest]) (.http c)
  | switched {answers : List Answer} {a : Answer} {owner : Principal} {t : Channel.Task}
      {running : Bool} {s : Channel.Session} (hanswers : ∀ a ∈ answers, ¬ a.Switches)
      (ha : a.Switches) (howner : a.whom = some owner) (hsession : ss.get? t.session = some s)
      (hs : s.owner = owner) :
      Story ss (answers.map .answered ++
        [.answered a, .opened t.session (some owner), .registered t.session]) (.channel t running)

namespace Story

variable {ss ss' : Channel.Sessions} {notes : List Note} {server : Server} {g : Gateway} {now : Nat}
  {c : Connection} {s : Served}

/-- What others do to the sessions is no part of the story. -/
theorem mono (h : Story ss notes server) (hgrown : ss.Grown ss') : Story ss' notes server := by
  cases h with
  | asking hanswers hpending hlives => exact .asking hanswers hpending hlives
  | parted hanswers hphase => exact .parted hanswers hphase
  | granted hanswers ha howner hpending => exact .granted hanswers ha howner hpending
  | broken hanswers ha hphase hrest => exact .broken hanswers ha hphase hrest
  | switched hanswers ha howner hsession hs =>
    obtain ⟨s', hs', howner'⟩ := hgrown _ _ hsession
    exact .switched hanswers ha howner hs' (howner'.trans hs)

/-- A step of the connection goes on with its story. -/
theorem went (h : Story ss notes (.http c)) (hwent : Connection.Went g now c s) :
    Story ss (notes ++ (c.told? g now s.connection).toList) (.http s.connection) := by
  cases h with
  | @asking answers c hanswers hpending hlives =>
    have hparted : s.connection.phase = .ended → Story ss
        (answers.map .answered ++ (c.told? g now s.connection).toList) (.http s.connection) := by
      intro hphase
      rw [Connection.told_end hlives hphase]
      exact .parted hanswers hphase
    cases hwent with
    | moved hkept hsilent hends =>
      by_cases hphase : s.connection.phase = .ended
      · exact hparted hphase
      · rw [Connection.told_nothing hsilent fun h => absurd h hphase, Option.toList_none,
          List.append_nil]
        exact .asking hanswers (hkept.trans hpending) hphase
    | dropped hphase _ => exact hparted hphase
    | granted hasked hphase hversion howner hstatus =>
      rw [Connection.told_answer hasked hphase]
      refine .granted hanswers ⟨hstatus, hversion⟩ howner ?_
      rw [hphase]
      rfl
    | @answered x after hasked hphase hafter hstatus =>
      rw [Connection.told_answer hasked hphase, Option.toList_some, ← List.map_singleton,
        ← List.map_append]
      refine .asking (List.forall_mem_append.mpr ⟨hanswers, ?_⟩) ?_ ?_
      · intro a ha hswitches
        rw [List.mem_singleton.mp ha] at hswitches
        exact hstatus hswitches.1 hswitches.2
      · rw [hphase]
        exact hafter
      · rw [hphase]
        exact nofun
  | parted hanswers hphase =>
    obtain ⟨hended, hnothing⟩ := hwent.of_ended hphase
    rw [hnothing, Option.toList_none, List.append_nil]
    exact .parted hanswers hended
  | granted hanswers ha howner hpending =>
    have hasked : c.phase.asked? = none := by
      cases hphase : c.phase <;> rw [hphase] at hpending <;> first | rfl | cases hpending
    have hlives : c.phase ≠ .ended := by
      intro hphase
      rw [hphase] at hpending
      cases hpending
    cases hwent with
    | moved hkept hsilent _ =>
      have hon := hkept.trans hpending
      have hphase : s.connection.phase ≠ .ended := by
        intro hphase
        rw [hphase] at hon
        cases hon
      rw [Connection.told_nothing hsilent fun h => absurd h hphase, Option.toList_none,
        List.append_nil]
      exact .granted hanswers ha howner hon
    | dropped hphase hrest =>
      rw [Connection.told_end hlives hphase, Option.toList_some, List.append_assoc]
      exact .broken hanswers ha hphase hrest
    | granted hsome => cases hasked.symm.trans hsome
    | answered hsome => cases hasked.symm.trans hsome
  | broken hanswers ha hphase hrest =>
    obtain ⟨hended, hnothing⟩ := hwent.of_ended hphase
    rw [hnothing, Option.toList_none, List.append_nil]
    exact .broken hanswers ha hended hrest

end Story

/-! ## Steps of a link -/

/-- A gateway with its own resources and commands, and its sessions in order. -/
structure Gateway.Tidy (g : Gateway) : Prop where
  resources_eq : g.resources = .home
  commands_eq : g.commands = Home.commands
  sessions : g.sessions.Orderly

theorem Gateway.Tended.tidy {g g' : Gateway} (h : g.Tended g') (hg : g.Tidy) : g'.Tidy :=
  ⟨h.resources_eq.trans hg.resources_eq, h.commands_eq.trans hg.commands_eq,
    h.sessions.orderly hg.sessions⟩

namespace Link

/-- Does the connection go on reading, if it is one? -/
def ReadsOn (l : Link) : Prop :=
  match l.server with
  | .http c => 0 < c.readSize
  | .channel _ _ => True

/-- What a step of a link is, and what the gateway and the link are after it. -/
inductive Stepped (g : Gateway) (now : Nat) (l : Link) : Gateway × Link → Prop
  | opened {c : Connection} {owner : Principal} (hserver : l.server = .http c)
      (hphase : c.phase = .handed owner) :
      Stepped g now l (openChannel g l.pipe c.buffer owner)
  | went {c : Connection} {s : Served} (hserver : l.server = .http c)
      (hstep : c.step g now l.pipe = some s) :
      Stepped g now l (s.gateway, { l with pipe := s.pipe, server := .http s.connection })
  | turned {t : Channel.Task} {r : Gateway × Link} (hserver : l.server = .channel t true)
      (hturn : l.stepChannel g now t = some r) : Stepped g now l r

variable {g : Gateway} {now : Nat} {l : Link} {r : Gateway × Link} {notes : List Note}

theorem step_stepped (hstep : l.step g now = some r) : Stepped g now l r := by
  unfold step at hstep
  cases hserver : l.server with
  | http c =>
    rw [hserver] at hstep
    dsimp only at hstep
    split at hstep
    · next owner hphase =>
      cases hstep
      exact .opened hserver hphase
    · obtain ⟨s, hs, heq⟩ := Option.map_eq_some_iff.mp hstep
      cases heq
      exact .went hserver hs
  | channel t running =>
    rw [hserver] at hstep
    dsimp only at hstep
    split at hstep
    · next hrunning =>
      exact .turned (hrunning ▸ hserver) hstep
    · cases hstep

theorem stepChannel_tended (hg : g.Tidy) {t : Channel.Task}
    (hturn : l.stepChannel g now t = some r) : g.Tended r.1 ∧
      ∃ t' : Channel.Task, t'.session = t.session ∧ r.2.server = .channel t' true := by
  unfold stepChannel at hturn
  obtain ⟨taken, htaken, heq⟩ := Option.map_eq_some_iff.mp hturn
  have hkept := Channel.Task.turn_tended hg.commands_eq htaken
  have hsession := Channel.Task.turn_session htaken
  cases heq
  refine ⟨?_, taken.task, hsession, rfl⟩
  split
  · refine ⟨rfl, rfl, hkept.trans ?_⟩
    exact Channel.Sessions.tended_modify _ _ fun _ _ => rfl
  · exact ⟨rfl, rfl, hkept⟩

/-- A step leaves the gateway tidy, and keeps every session. -/
theorem step_tidy (hg : g.Tidy) (hl : l.ReadsOn) (hstep : l.step g now = some r) :
    r.1.Tidy ∧ g.sessions.Grown r.1.sessions ∧ r.2.ReadsOn := by
  unfold ReadsOn at hl
  cases step_stepped hstep with
  | @opened c owner hserver hphase =>
    exact ⟨⟨hg.resources_eq, hg.commands_eq, hg.sessions.enrol owner⟩,
      Channel.Sessions.enrol_grown g.sessions owner, trivial⟩
  | went hserver hgoes =>
    rw [hserver] at hl
    have hfollows := (Connection.step_went hg.resources_eq hl hgoes).2
    exact ⟨hfollows.gateway.tidy hg, hfollows.gateway.sessions.grown, hfollows.reads⟩
  | turned hserver hturn =>
    obtain ⟨hkept, t', _, hserver'⟩ := stepChannel_tended hg hturn
    refine ⟨hkept.tidy hg, hkept.sessions.grown, ?_⟩
    unfold ReadsOn
    rw [hserver']
    trivial

/-- What is seen of a step goes on with the story of the link. -/
theorem step_story (hg : g.Tidy) (hl : l.ReadsOn) (hstory : Story g.sessions notes l.server)
    (hstep : l.step g now = some r) :
    Story r.1.sessions (notes ++ l.notes g now r.1 r.2) r.2.server := by
  unfold ReadsOn at hl
  have hgrown := (step_tidy hg hl hstep).2.1
  cases step_stepped hstep with
  | @opened c owner hserver hphase =>
    have hnew : (g.sessions.enrol owner).get? g.sessions.all.length = some { owner } :=
      Channel.Sessions.get?_create_self g.sessions owner
    have hnotes : l.notes g now (openChannel g l.pipe c.buffer owner).1
        (openChannel g l.pipe c.buffer owner).2 =
          [.opened g.sessions.all.length (some owner), .registered g.sessions.all.length] := by
      have hjoined := hg.sessions.joined_enrol owner
      unfold Link.notes
      rw [hserver]
      show _ ++ (g.sessions.joined (g.sessions.enrol owner)).map Note.registered = _
      rw [hjoined]
      show [Note.opened g.sessions.all.length
        (((g.sessions.enrol owner).get? g.sessions.all.length).map (·.owner))] ++ _ = _
      rw [hnew]
      rfl
    rw [hnotes]
    rw [hserver] at hstory
    cases hstory with
    | asking _ hpending _ =>
      rw [hphase] at hpending
      cases hpending
    | parted _ hended =>
      rw [hphase] at hended
      cases hended
    | granted hanswers ha howner hpending =>
      rw [hphase] at hpending
      cases hpending
      rw [List.append_assoc]
      let t : Channel.Task :=
        { session := g.sessions.all.length, wire := { receiver := { buffer := c.buffer } } }
      have hget : (g.sessions.enrol owner).get? t.session = some { owner } := hnew
      exact .switched hanswers ha howner hget rfl
    | broken _ _ hended _ =>
      rw [hphase] at hended
      cases hended
  | @went c s hserver hgoes =>
    rw [hserver] at hl hstory
    obtain ⟨hwent, hfollows⟩ := Connection.step_went hg.resources_eq hl hgoes
    have hnotes : l.notes g now s.gateway { l with pipe := s.pipe, server := .http s.connection } =
        (c.told? g now s.connection).toList := by
      unfold Link.notes
      rw [hserver, hfollows.gateway.sessions.joined_nil]
      exact List.append_nil _
    rw [hnotes]
    exact (hstory.went hwent).mono hgrown
  | @turned t r hserver hturn =>
    obtain ⟨hkept, t', hsession, hserver'⟩ := stepChannel_tended hg hturn
    have hnotes : l.notes g now r.1 r.2 = [] := by
      unfold Link.notes
      rw [hserver, hkept.sessions.joined_nil]
      rfl
    rw [hnotes, List.append_nil, hserver']
    rw [hserver] at hstory
    cases hstory.mono hgrown with
    | switched hanswers ha howner hget hs =>
      rw [← hsession] at hget ⊢
      exact .switched hanswers ha howner hget hs

end Link

/-! ## Runs -/

namespace Network

/-- A gateway with its clients, and what has been seen of one of the connections. -/
structure Watch where
  network : Network
  index : Nat
  notes : List Note := []

namespace Watch

/-- What is to be seen of the connection when something happens: only its own steps tell. -/
def seen (w : Watch) : Event → List Note
  | .step index =>
    if index = w.index then
      match w.network.links[index]? with
      | some (_, l) =>
        match l.step w.network.gateway w.network.now with
        | some (gateway, l') => l.notes w.network.gateway w.network.now gateway l'
        | none => []
      | none => []
    else []
  | _ => []

def perform (w : Watch) (event : Event) : Watch :=
  { w with network := w.network.perform event, notes := w.notes ++ w.seen event }

def run (w : Watch) (events : List Event) : Watch := events.foldl perform w

/-- Watching changes nothing. -/
theorem run_network (w : Watch) (events : List Event) :
    (w.run events).network = w.network.performAll events := by
  induction events generalizing w with
  | nil => rfl
  | cons event events ih => exact ih (w.perform event)

theorem run_index (w : Watch) (events : List Event) : (w.run events).index = w.index := by
  induction events generalizing w with
  | nil => rfl
  | cons event events ih => exact ih (w.perform event)

/-- Is everything in order, and does the connection have a story? -/
structure Sound (w : Watch) : Prop where
  gateway : w.network.gateway.Tidy
  reads : ∀ e ∈ w.network.links, e.2.ReadsOn
  story : ∀ e, w.network.links[w.index]? = some e →
    Story w.network.gateway.sessions w.notes e.2.server
  unborn : w.network.links[w.index]? = none → w.notes = []

variable {w : Watch}

theorem Sound.connect (hw : w.Sound) (name : String) (faults : Faults) :
    (w.perform (.connect name faults)).Sound := by
  have hnotes : (w.perform (.connect name faults)).notes = w.notes := List.append_nil _
  refine ⟨hw.gateway, fun e he => ?_, fun e he => ?_, fun hnone => ?_⟩
  · rcases List.mem_append.mp he with hold | hnew
    · exact hw.reads e hold
    · rw [List.mem_singleton.mp hnew]
      show 0 < 8192
      decide
  · rw [hnotes]
    by_cases hlt : w.index < w.network.links.length
    · exact hw.story e ((List.getElem?_append_left hlt).symm.trans he)
    · have hlen : w.network.links.length ≤ w.index := Nat.le_of_not_lt hlt
      have hnew := List.mem_of_getElem? ((List.getElem?_append_right hlen).symm.trans he)
      rw [hw.unborn (List.getElem?_eq_none hlen), List.mem_singleton.mp hnew]
      have hfirst : Story w.network.gateway.sessions (([] : List Answer).map .answered)
          (.http (.start w.network.gateway w.network.now)) :=
        .asking (fun _ h => nomatch h) rfl nofun
      exact hfirst
  · rw [hnotes]
    have hlen : _ ≤ w.index := List.getElem?_eq_none_iff.mp hnone
    have hmore : (w.perform (.connect name faults)).network.links.length =
        w.network.links.length + 1 := List.length_append
    exact hw.unborn (List.getElem?_eq_none (by omega))

/-- A link that cannot take a step leaves everything as it is. -/
theorem perform_idle {index : Nat} (hidle : ∀ e, w.network.links[index]? = some e →
    e.2.step w.network.gateway w.network.now = none) : w.perform (.step index) = w := by
  have hseen : w.seen (.step index) = [] := by
    unfold seen
    dsimp only
    split
    · split
      · next l hget => rw [hidle _ hget]
      · rfl
    · rfl
  have hsame : w.network.stepAt index = w.network := by
    unfold stepAt
    split
    · rfl
    · next l hget => rw [hidle _ hget]
  show { w with network := w.network.stepAt index, notes := w.notes ++ w.seen (.step index) } = w
  rw [hseen, hsame, List.append_nil]

/-- What a step of a link leaves behind. -/
theorem stepAt_of_step {n : Network} {index : Nat} {name : String} {l : Link} {r : Gateway × Link}
    (hget : n.links[index]? = some (name, l)) (hstep : l.step n.gateway n.now = some r) :
    n.stepAt index = { n with gateway := r.1, links := n.links.set index (name, r.2) } := by
  unfold stepAt
  rw [hget]
  dsimp only
  rw [hstep]

theorem Sound.step (hw : w.Sound) (index : Nat) : (w.perform (.step index)).Sound := by
  by_cases hidle : ∀ e, w.network.links[index]? = some e →
      e.2.step w.network.gateway w.network.now = none
  · rw [perform_idle hidle]
    exact hw
  obtain ⟨⟨name, l⟩, hactive⟩ := Classical.not_forall.mp hidle
  obtain ⟨hget, hmoves⟩ := Classical.not_imp.mp hactive
  obtain ⟨r, hstep⟩ := Option.ne_none_iff_exists'.mp hmoves
  obtain ⟨hgateway, hgrown, hreads⟩ :=
    Link.step_tidy hw.gateway (hw.reads _ (List.mem_of_getElem? hget)) hstep
  have hnetwork : (w.perform (.step index)).network =
      { w.network with gateway := r.1, links := w.network.links.set index (name, r.2) } :=
    stepAt_of_step hget hstep
  have hseen : w.seen (.step index) =
      if index = w.index then l.notes w.network.gateway w.network.now r.1 r.2 else [] := by
    unfold seen
    dsimp only
    rw [hget]
    dsimp only at hstep ⊢
    rw [hstep]
  refine ⟨?_, fun e he => ?_, fun e he => ?_, fun hnone => ?_⟩
  · rw [hnetwork]
    exact hgateway
  · rw [hnetwork] at he
    rcases List.mem_or_eq_of_mem_set he with hold | hnew
    · exact hw.reads e hold
    · rw [hnew]
      exact hreads
  · show Story _ (w.notes ++ w.seen (.step index)) _
    rw [hseen, hnetwork]
    rw [hnetwork] at he
    by_cases hown : index = w.index
    · rw [if_pos hown]
      have hlt : w.index < w.network.links.length := hown ▸ (List.getElem?_eq_some_iff.mp hget).1
      have hsame : some (name, r.2) = some e := by
        rw [← he]
        show _ = (w.network.links.set index (name, r.2))[w.index]?
        rw [hown, List.getElem?_set_self hlt]
      cases hsame
      exact Link.step_story hw.gateway (hw.reads _ (List.mem_of_getElem? hget))
        (hw.story _ (hown ▸ hget)) hstep
    · rw [if_neg hown, List.append_nil]
      exact (hw.story e ((List.getElem?_set_ne hown).symm.trans he)).mono hgrown
  · rw [hnetwork] at hnone
    have hlen : _ ≤ w.index := List.getElem?_eq_none_iff.mp hnone
    rw [List.length_set] at hlen
    have hold := List.getElem?_eq_none hlen
    have hother : index ≠ w.index := by
      intro heq
      rw [heq, hold] at hget
      cases hget
    show w.notes ++ w.seen (.step index) = []
    rw [hseen, if_neg hother, List.append_nil]
    exact hw.unborn hold

theorem Sound.onPipe (hw : w.Sound) (name : String) (f : Pipe → Pipe) :
    (w.perform (.onPipe name f)).Sound := by
  have hnotes : (w.perform (.onPipe name f)).notes = w.notes := List.append_nil _
  have hserver : ∀ e : String × Link,
      (if e.1 = name then { e.2 with pipe := f e.2.pipe } else e.2).server = e.2.server := by
    intro e
    split <;> rfl
  refine ⟨hw.gateway, fun e he => ?_, fun e he => ?_, fun hnone => ?_⟩
  · obtain ⟨old, hold, rfl⟩ := List.mem_map.mp he
    have hreads := hw.reads old hold
    unfold Link.ReadsOn at hreads ⊢
    dsimp only
    rw [hserver old]
    exact hreads
  · have hget : (w.network.links[w.index]?).map _ = some e := List.getElem?_map.symm.trans he
    obtain ⟨old, hold, rfl⟩ := Option.map_eq_some_iff.mp hget
    rw [hnotes]
    dsimp only
    rw [hserver old]
    exact hw.story old hold
  · have hget : (w.network.links[w.index]?).map _ = none := List.getElem?_map.symm.trans hnone
    rw [hnotes]
    exact hw.unborn (Option.map_eq_none_iff.mp hget)

theorem Sound.perform (hw : w.Sound) (event : Event) : (w.perform event).Sound := by
  have hquiet : ∀ n : Network, n.gateway.Tidy → n.gateway.sessions = w.network.gateway.sessions →
      n.links = w.network.links → Sound { w with network := n, notes := w.notes ++ [] } := by
    intro n hn hsessions hlinks
    rw [List.append_nil]
    exact ⟨hn, hlinks ▸ hw.reads, hlinks ▸ hsessions ▸ hw.story, hlinks ▸ hw.unborn⟩
  cases event with
  | connect name faults => exact hw.connect name faults
  | step index => exact hw.step index
  | onPipe name f => exact hw.onPipe name f
  | clock now => exact hquiet _ hw.gateway rfl rfl
  | trigger =>
    exact hquiet _ ⟨hw.gateway.resources_eq, hw.gateway.commands_eq, hw.gateway.sessions⟩ rfl rfl

theorem Sound.run (hw : w.Sound) (events : List Event) : (w.run events).Sound := by
  induction events generalizing w with
  | nil => exact hw
  | cons event events ih => exact ih (hw.perform event)

end Watch

/-- Do steps of the link alone make it a channel? -/
def Opens (n : Network) (index : Nat) : Prop :=
  ∃ k name l t, (n.performAll (List.replicate k (.step index))).links[index]? = some (name, l) ∧
    l.server = .channel t true

variable {n : Network} {index : Nat} {name : String} {l : Link} {c : Connection} {owner : Principal}

theorem Opens.of_step {r : Gateway × Link} (hget : n.links[index]? = some (name, l))
    (hstep : l.step n.gateway n.now = some r)
    (h : Opens { n with gateway := r.1, links := n.links.set index (name, r.2) } index) :
    n.Opens index := by
  obtain ⟨k, h⟩ := h
  rw [← Watch.stepAt_of_step hget hstep] at h
  exact ⟨k + 1, h⟩

theorem opens_of_handed (hget : n.links[index]? = some (name, l)) (hserver : l.server = .http c)
    (hphase : c.phase = .handed owner) : n.Opens index := by
  have hstep : l.step n.gateway n.now =
      some (Link.openChannel n.gateway l.pipe c.buffer owner) := by
    unfold Link.step
    rw [hserver]
    dsimp only
    rw [hphase]
  have hlt : index < n.links.length := (List.getElem?_eq_some_iff.mp hget).1
  refine Opens.of_step hget hstep ⟨0, name, _, _, List.getElem?_set_self hlt, rfl⟩

/-- A connection that takes a step as one of this kind leaves a link with it. -/
theorem Opens.of_connection {s : Served} (hget : n.links[index]? = some (name, l))
    (hserver : l.server = .http c) (hphase : ∀ owner, c.phase ≠ .handed owner)
    (hstep : c.step n.gateway n.now l.pipe = some s)
    (h : ∀ n' : Network, n'.links[index]? =
      some (name, { l with pipe := s.pipe, server := .http s.connection }) → n'.Opens index) :
    n.Opens index := by
  have hlink : l.step n.gateway n.now =
      some (s.gateway, { l with pipe := s.pipe, server := .http s.connection }) := by
    unfold Link.step
    rw [hserver]
    dsimp only
    split
    · next owner heq => exact absurd heq (hphase owner)
    · rw [hstep]
      rfl
  have hlt : index < n.links.length := (List.getElem?_eq_some_iff.mp hget).1
  exact Opens.of_step hget hlink (h _ (List.getElem?_set_self hlt))

theorem opens_of_draining {x : Exchange} (hget : n.links[index]? = some (name, l))
    (hserver : l.server = .http c) (hphase : c.phase = .draining x (.channel owner))
    (hout : c.out = []) (hc : 0 < c.readSize) : n.Opens index := by
  induction hk : l.pipe.incoming.length using Nat.strongRecOn generalizing n l c x with
  | ind k ih =>
    obtain ⟨s, hdrain, hgateway, hsout, hreads, hnext⟩ :=
      Connection.drain_next n.gateway n.now l.pipe x owner hc
    have hstep : c.step n.gateway n.now l.pipe = some s := by
      unfold Connection.step Connection.proceed
      rw [hout, hphase]
      exact hdrain
    refine Opens.of_connection hget hserver (hphase ▸ nofun) hstep fun n' hget' => ?_
    rcases hnext with hhanded | ⟨⟨x', hdraining⟩, hless⟩
    · exact opens_of_handed hget' rfl hhanded
    · exact ih _ (hk ▸ hless) hget' rfl hdraining (hsout.trans hout) hreads rfl

theorem opens_of_pending (hget : n.links[index]? = some (name, l)) (hserver : l.server = .http c)
    (hpending : c.phase.pending? = some owner) (hc : 0 < c.readSize) (hout : c.out = []) :
    n.Opens index := by
  cases hphase : c.phase with
  | handed owner' => exact opens_of_handed hget hserver hphase
  | draining x after =>
    rw [hphase] at hpending
    cases after with
    | channel owner' => exact opens_of_draining hget hserver hphase hout hc
    | next => cases hpending
    | close => cases hpending
  | replied x after =>
    rw [hphase] at hpending
    have hstep : c.step n.gateway n.now l.pipe =
        some (c.enter n.gateway l.pipe (.draining x after)) := by
      unfold Connection.step Connection.proceed
      rw [hout, hphase]
      rfl
    refine Opens.of_connection hget hserver (hphase ▸ nofun) hstep fun n' hget' => ?_
    cases after with
    | channel owner' => exact opens_of_draining hget' rfl rfl hout hc
    | next => cases hpending
    | close => cases hpending
  | _ =>
    rw [hphase] at hpending
    cases hpending

/-- A connection on its way to a channel becomes one by its own steps, once its reply is written or
as its client reads. -/
theorem opens_of_reads (hget : n.links[index]? = some (name, l)) (hserver : l.server = .http c)
    (hpending : c.phase.pending? = some owner) (hc : 0 < c.readSize)
    (hout : c.out = [] ∨ l.pipe.Reads) : n.Opens index := by
  by_cases hempty : c.out = []
  · exact opens_of_pending hget hserver hpending hc hempty
  · obtain ⟨p', c', hflush, hout', hphase', hsize'⟩ :=
      Connection.flush_of_reads n.gateway n.now c (hout.resolve_left hempty)
    by_cases hhanded : ∃ owner', c.phase = .handed owner'
    · obtain ⟨owner', hhanded⟩ := hhanded
      exact opens_of_handed hget hserver hhanded
    · have hstep : c.step n.gateway n.now l.pipe = some ⟨n.gateway, p', c'⟩ := by
        unfold Connection.step
        rw [if_neg fun h => hempty (List.isEmpty_iff.mp h), hflush]
      refine Opens.of_connection hget hserver (fun owner' h => hhanded ⟨owner', h⟩) hstep
        fun n' hget' => ?_
      exact opens_of_pending hget' rfl (hphase'.symm ▸ hpending) (hsize'.symm ▸ hc) hout'

theorem opened_sound (s : Settings) (files : Files.Tree) (tokenText : Nat → String)
    (index : Nat) : Watch.Sound { network := opened s files tokenText, index } := by
  refine ⟨⟨rfl, rfl, ⟨List.Pairwise.nil, fun id h => ?_⟩⟩, fun e h => ?_, fun e h => ?_,
    fun _ => rfl⟩
  · exact absurd h List.not_mem_nil
  · exact absurd h List.not_mem_nil
  · exact nomatch List.getElem?_nil.symm.trans h

/-- Whatever clients do and however their connections take turns, a connection becomes a channel
after an answer of 101 to a request in a version with upgrades, and after no other answer: once,
registered once, and for whom the credentials of that request stood for. No channel is pending
otherwise, and one that is pending is opened by steps of the connection alone, as soon as its
client has taken the answer or as it reads. -/
theorem switching_opens_channel (s : Settings) (files : Files.Tree) (tokenText : Nat → String)
    (index : Nat) (events : List Event) {name : String} {l : Link}
    (hl : ((opened s files tokenText).performAll events).links[index]? = some (name, l)) :
    let w := Watch.run { network := opened s files tokenText, index } events
    w.network = (opened s files tokenText).performAll events ∧
    Story w.network.gateway.sessions w.notes l.server ∧
    w.network.gateway.sessions.entries.Nodup ∧
    (∀ c owner, l.server = .http c → c.phase.pending? = some owner →
      c.out = [] ∨ l.pipe.Reads → w.network.Opens index) := by
  intro w
  have hnetwork : w.network = (opened s files tokenText).performAll events :=
    Watch.run_network _ events
  have hindex : w.index = index := Watch.run_index _ events
  have hw : w.Sound := (opened_sound s files tokenText index).run events
  rw [← hnetwork] at hl
  refine ⟨hnetwork, hw.story _ (hindex ▸ hl), hw.gateway.sessions.nodup, ?_⟩
  intro c owner hserver hpending hout
  have hreads := hw.reads _ (List.mem_of_getElem? hl)
  unfold Link.ReadsOn at hreads
  rw [hserver] at hreads
  exact opens_of_reads hl hserver hpending hreads hout

/-- A request for a channel. -/
def upgradeRequest (version : String) : Bytes :=
  utf8 ("GET /ws " ++ version ++ "\r\nAuthorization: Basic YW5uOm5ldw==\r\n" ++
    "Upgrade: websocket\r\nConnection: Upgrade\r\nSec-WebSocket-Version: 13\r\n" ++
    "Sec-WebSocket-Key: dGhlIHNhbXBsZSBub25jZQ==\r\n\r\n")

/-- The head of that request. -/
def upgradeHead (version : Http.Version) : Head :=
  { method := "GET", path := "/ws", version
    headers := [
      ⟨"authorization", utf8 "Basic YW5uOm5ldw=="⟩, ⟨"upgrade", utf8 "websocket"⟩,
      ⟨"connection", utf8 "Upgrade"⟩, ⟨"sec-websocket-version", utf8 "13"⟩,
      ⟨"sec-websocket-key", utf8 "dGhlIHNhbXBsZSBub25jZQ=="⟩] }

/-- A client asks for a channel. -/
def upgrade (version : String) : List Event :=
  [.connect "c" {}, .onPipe "c" (·.send (upgradeRequest version))] ++ List.replicate 9 (.step 0)

/-- The first connection of a gateway without any tokens. -/
def watched (events : List Event) : Watch :=
  Watch.run { network := opened annTwice {} fun _ => "", index := 0 } events

theorem upgrade_opens_channel :
    let w := watched (upgrade "HTTP/1.1")
    w.notes = [
      .answered { head := upgradeHead .http11, whom := some ⟨"ann", .guest⟩, status := 101 },
      .opened 0 (some ⟨"ann", .guest⟩), .registered 0] ∧
    ∃ l, w.network.links[0]? = some ("c", l) ∧
      Story w.network.gateway.sessions w.notes l.server := by
  intro w
  have hrun : w.notes = [
      .answered { head := upgradeHead .http11, whom := some ⟨"ann", .guest⟩, status := 101 },
      .opened 0 (some ⟨"ann", .guest⟩), .registered 0] ∧
      w.network.links[0]?.map (·.1) = some "c" := by decide +kernel
  obtain ⟨⟨name, l⟩, hl, rfl⟩ := Option.map_eq_some_iff.mp hrun.2
  have hnetwork : w.network = _ := Watch.run_network _ (upgrade "HTTP/1.1")
  exact ⟨hrun.1, l, hl,
    (switching_opens_channel annTwice {} (fun _ => "") 0 (upgrade "HTTP/1.1") (hnetwork ▸ hl)).2.1⟩

/-- The version of the request is not looked at: one that has no upgrades is answered with 101 as
well, the answer is written to its end, and then the connection ends and there is no channel. -/
theorem oldUpgrade_opens_nothing :
    let w := watched (upgrade "HTTP/1.0")
    w.notes = [
      .answered { head := upgradeHead .http10, whom := some ⟨"ann", .guest⟩, status := 101 },
      .ended []] ∧
    w.network.gateway.sessions.all = [] ∧ w.network.links.map (·.2.isEnded) = [true] := by
  decide +kernel

end Network

end DeviceGateway
