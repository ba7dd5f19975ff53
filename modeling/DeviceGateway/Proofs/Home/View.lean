import DeviceGateway.Proofs.Channel.Owners
import DeviceGateway.Proofs.Home.Acts

/-
  What everybody but guests can tell of a home: the devices, the registry, the sessions of all but
  guests, and of a guest's session its owner and whether it is held. What an act makes of this view
  is settled by the view (`perform_view`), and so are the answers to messages and to requests for
  resources (`dispatch_view`, `serve_view`).
-/

open DeviceGateway.Channel

namespace DeviceGateway

/-- Is this a guest? -/
def Principal.isGuest (p : Principal) : Bool := p.level = .guest

theorem Principal.allows_of_isGuest {p : Principal} (h : p.isGuest = true) :
    p.allows .control = false := by
  unfold allows
  rw [of_decide_eq_true h]
  rfl

namespace Channel

/-! ## Sessions -/

namespace Session

variable {s s' : Session} {f : Session → Session}

/-- What others can tell of a session: of a guest's, whose it is and whether it is held. -/
def view (s : Session) : Session :=
  if s.owner.isGuest then { owner := s.owner, held := s.held } else s

theorem view_of_guest (h : s.owner.isGuest = true) :
    s.view = { owner := s.owner, held := s.held } := if_pos h

theorem view_of_other (h : s.owner.isGuest = false) : s.view = s := by
  unfold view
  rw [h]
  rfl

theorem view_owner (s : Session) : s.view.owner = s.owner := by
  unfold view
  split <;> rfl

theorem view_held (s : Session) : s.view.held = s.held := by
  unfold view
  split <;> rfl

theorem view_view (s : Session) : s.view.view = s.view := by
  cases h : s.owner.isGuest with
  | true =>
    have hview : s.view.owner.isGuest = true := by rw [view_owner, h]
    rw [view_of_guest hview, view_of_guest h]
  | false => rw [view_of_other h, view_of_other h]

/-- Does a change keep the owner, and treat alike whoever holds the session alike? -/
structure Discreet (f : Session → Session) : Prop where
  owner_eq : ∀ s, (f s).owner = s.owner
  held_eq : ∀ s s', s.held = s'.held → (f s).held = (f s').held

/-- What such a change does to the view is settled by the view. -/
theorem Discreet.view_eq (hf : Discreet f) (s : Session) : (f s.view).view = (f s).view := by
  cases h : s.owner.isGuest with
  | true =>
    have hs : (f s).owner.isGuest = true := by rw [hf.owner_eq, h]
    have hview : (f s.view).owner.isGuest = true := by rw [hf.owner_eq, view_owner, h]
    rw [view_of_guest hs, view_of_guest hview, hf.owner_eq, hf.owner_eq, view_owner,
      hf.held_eq s.view s (view_held s)]
  | false => rw [view_of_other h]

theorem send_held (s : Session) (text : String) : (s.send text).1.held = s.held := by
  rcases send_cases s text with ⟨_, _, _, h⟩ | ⟨_, h⟩ | ⟨_, _, h⟩ <;> rw [h]

theorem sendAll_held (s : Session) (texts : List String) :
    (s.sendAll texts).1.held = s.held := by
  induction texts generalizing s with
  | nil => rfl
  | cons text texts ih => exact (ih (s.send text).1).trans (s.send_held text)

theorem send_discreet (text : String) : Discreet fun s => (s.send text).1 where
  owner_eq s := s.send_owner text
  held_eq s s' h := by rw [send_held, send_held, h]

theorem sendAll_discreet (texts : List String) : Discreet fun s => (s.sendAll texts).1 where
  owner_eq s := s.sendAll_owner texts
  held_eq s s' h := by rw [sendAll_held, sendAll_held, h]

theorem touch_discreet (t : Home.Touch) : Discreet t.apply where
  owner_eq s := by
    obtain ⟨owner, state, queue, listening, held⟩ := s
    cases t with
    | receive => cases queue <;> rfl
    | _ => rfl
  held_eq s s' h := by
    obtain ⟨owner, state, queue, listening, held⟩ := s
    obtain ⟨owner', state', queue', listening', held'⟩ := s'
    cases t with
    | receive => cases queue <;> cases queue' <;> exact h
    | drop => rfl
    | _ => exact h

theorem view_send (h : s.owner.isGuest = true) (text : String) : (s.send text).1.view = s.view := by
  have howner : (s.send text).1.owner.isGuest = true := by rw [send_owner, h]
  rw [view_of_guest howner, view_of_guest h, send_owner, send_held]

end Session

namespace Sessions

variable {ss ss' : Sessions} {id : Nat}

/-- What others can tell of the sessions. -/
def view (ss : Sessions) : Sessions := { ss with all := ss.all.map Session.view }

theorem ext_get? (hentries : ss.entries = ss'.entries) (hget : ∀ id, ss.get? id = ss'.get? id) :
    ss = ss' := by
  obtain ⟨all, entries⟩ := ss
  obtain ⟨all', entries'⟩ := ss'
  rw [show all = all' from List.ext_getElem? hget, show entries = entries' from hentries]

theorem get?_view (ss : Sessions) (id : Nat) : ss.view.get? id = (ss.get? id).map Session.view :=
  List.getElem?_map

theorem prune_view (ss : Sessions) : ss.view.prune.entries = ss.prune.entries := by
  have hheld : ss.view.isHeld = ss.isHeld := by
    funext id
    unfold isHeld
    rw [get?_view]
    cases ss.get? id with
    | none => rfl
    | some s => exact s.view_held
  unfold prune
  rw [hheld]
  rfl

/-- The view of each session, after changes to the sessions of the same registry. -/
theorem view_congr (hentries : ss.entries = ss'.entries)
    (hget : ∀ id, (ss.get? id).map Session.view = (ss'.get? id).map Session.view) :
    ss.view = ss'.view := by
  refine ext_get? hentries fun id => ?_
  rw [get?_view, get?_view, hget]

theorem view_view (ss : Sessions) : ss.view.view = ss.view := by
  refine view_congr rfl fun id => ?_
  rw [get?_view]
  cases ss.get? id with
  | none => rfl
  | some s => exact congrArg some s.view_view

theorem modify_view {f : Session → Session} (hf : Session.Discreet f) (ss : Sessions) (id : Nat) :
    (ss.view.modify id f).view = (ss.modify id f).view := by
  refine view_congr rfl fun j => ?_
  rw [get?_modify, get?_modify, get?_view]
  cases ss.get? j with
  | none => split <;> rfl
  | some s =>
    split
    · exact congrArg some (hf.view_eq s)
    · exact congrArg some s.view_view

theorem send_view (ss : Sessions) (id : Nat) (text : String) :
    (ss.view.send id text).1.view = (ss.send id text).1.view := by
  refine view_congr (by rw [send_entries, send_entries]; rfl) fun j => ?_
  rw [get?_send, get?_send, get?_view]
  cases ss.get? j with
  | none => split <;> rfl
  | some s =>
    split
    · exact congrArg some ((Session.send_discreet text).view_eq s)
    · exact congrArg some s.view_view

theorem create_view (ss : Sessions) (owner : Principal) :
    (ss.view.create owner).1.view = (ss.create owner).1.view := by
  have hviews : (ss.all.map Session.view).map Session.view = ss.all.map Session.view := by
    rw [List.map_map]
    exact List.map_congr_left fun s _ => s.view_view
  unfold create view
  simp only [List.map_append, hviews]

theorem register_view (ss : Sessions) (id : Nat) :
    (ss.view.register id).view = (ss.register id).view := by
  refine view_congr rfl fun j => ?_
  show (ss.view.get? j).map Session.view = (ss.get? j).map Session.view
  rw [← get?_view, view_view, get?_view]

/-- Nothing that a text does to a guest's session can be told. -/
theorem view_send (hid : (ss.get? id).any (·.owner.isGuest) = true) (text : String) :
    (ss.send id text).1.view = ss.view := by
  refine view_congr (send_entries ss id text) fun j => ?_
  rw [get?_send]
  split
  · next hij =>
    subst hij
    cases hs : ss.get? id with
    | none => rfl
    | some s =>
      rw [hs] at hid
      exact congrArg some (Session.view_send hid text)
  · rfl

theorem broadcast_view (ss : Sessions) (event : Push) :
    (ss.view.broadcast event).1.view = (ss.broadcast event).1.view := by
  refine view_congr (by rw [broadcast_entries, broadcast_entries, prune_view]) fun j => ?_
  rw [get?_broadcast, get?_broadcast, get?_view, prune_view]
  cases ss.get? j with
  | none => rfl
  | some s => exact congrArg some ((Session.sendAll_discreet _).view_eq s)

end Sessions

end Channel

namespace Home

/-! ## The home -/

/-- What others can tell of the home. -/
def view (h : Home) : Home := { h with sessions := h.sessions.view }

theorem view_view (h : Home) : h.view.view = h.view := by
  unfold view
  rw [Sessions.view_view]

theorem stored_view (h : Home) (name : String) (state : Json) :
    (h.view.stored name state).view = (h.stored name state).view := by
  unfold stored view
  rw [Sessions.broadcast_view]

/-- A change goes as the view says. -/
theorem set_view (h : Home) (who : Principal) (name : String) (state : Json) :
    (h.set who name state = .ok (h.stored name state) ∧
      h.view.set who name state = .ok (h.view.stored name state)) ∨
    ∃ e, h.set who name state = .error e ∧ h.view.set who name state = .error e := by
  have hget : h.view.get? name = h.get? name := rfl
  unfold set
  rw [hget]
  split
  · exact Or.inr ⟨_, rfl, rfl⟩
  · split
    · exact Or.inr ⟨_, rfl, rfl⟩
    · exact Or.inl ⟨rfl, rfl⟩

/-- Every request makes of the home what the view says. -/
theorem outcome_view (q : Ask) (h : Home) : (q.outcome h.view).1.view = (q.outcome h).1.view := by
  have hgrant : q.granted h.view = q.granted h := rfl
  rcases q.answers h with ⟨hnone, _, hhome⟩ | ⟨name, state, hsome, _, _, hhome⟩
  · rcases q.answers h.view with ⟨_, _, hhome'⟩ | ⟨name', state', hsome', _, _, _⟩
    · rw [hhome, hhome', view_view]
    · rw [hgrant, hnone] at hsome'
      cases hsome'
  · rcases q.answers h.view with ⟨hnone', _, _⟩ | ⟨name', state', hsome', _, _, hhome'⟩
    · rw [hgrant, hsome] at hnone'
      cases hnone'
    · rw [hgrant, hsome] at hsome'
      cases hsome'
      rw [hhome, hhome', stored_view]

/-- Every act makes of the home what the view says. -/
theorem perform_view (a : Act) (h : Home) : (a.perform h.view).view = (a.perform h).view := by
  cases a with
  | create owner =>
    show Home.mk h.devices (h.sessions.view.create owner).1.view =
      Home.mk h.devices (h.sessions.create owner).1.view
    rw [Sessions.create_view]
  | register id =>
    show Home.mk h.devices (h.sessions.view.register id).view =
      Home.mk h.devices (h.sessions.register id).view
    rw [Sessions.register_view]
  | touch id t =>
    show Home.mk h.devices (h.sessions.view.modify id t.apply).view =
      Home.mk h.devices (h.sessions.modify id t.apply).view
    rw [Sessions.modify_view (Session.touch_discreet t)]
  | respond id r =>
    show Home.mk h.devices (h.sessions.view.send id r.text).1.view =
      Home.mk h.devices (h.sessions.send id r.text).1.view
    rw [Sessions.send_view]
  | ask q => exact outcome_view q h

/-- Does a handler answer the same on homes of one view? -/
def Impartial (f : Handler Home) : Prop :=
  ∀ call h, (f call h.view).edits = (f call h).edits ∧ (f call h.view).failure = (f call h).failure

theorem setDevice_impartial : Impartial setDevice := by
  intro call h
  unfold setDevice
  split
  · next name state _ _ =>
    rcases set_view h call.owner name state with ⟨hset, hview⟩ | ⟨e, hset, hview⟩
    · rw [hset, hview]
      exact ⟨rfl, rfl⟩
    · rw [hset, hview]
      exact ⟨rfl, rfl⟩
  · exact ⟨rfl, rfl⟩

theorem commands_impartial : commands.All fun _ f => Impartial f := by
  have hempty : (CommandTable.mk [] : CommandTable Home).All fun _ f => Impartial f :=
    fun _ hmem => by cases hmem
  unfold commands CommandTable.core
  exact (((hempty.register fun _ _ => ⟨rfl, rfl⟩).register
    fun _ _ => ⟨rfl, rfl⟩).register fun _ _ => ⟨rfl, rfl⟩).register setDevice_impartial

/-- A request is answered as the view says. -/
theorem dispatch_view (call : Call) (h : Home) :
    (commands.dispatch call h.view).2 = (commands.dispatch call h).2 := by
  unfold CommandTable.dispatch
  cases hfind : commands.find? call.request.command with
  | none => rfl
  | some f =>
    obtain ⟨hedits, hfailure⟩ := commands_impartial.of_find? hfind call h
    dsimp only
    rw [hedits, hfailure]

/-- A request for a resource is answered as the view says. -/
theorem serve_view (h : Home) (who : Principal) (r : ResourceRequest) :
    (h.view.serve who r).2 = (h.serve who r).2 := by
  have hget : ∀ name, h.view.get? name = h.get? name := fun _ => rfl
  unfold serve
  split
  · split <;> rfl
  · next name _ =>
    rw [hget]
    split
    · split <;> rfl
    · split
      · split
        · rfl
        · next state _ =>
          rcases set_view h who name state with ⟨hset, hview⟩ | ⟨e, hset, hview⟩
          · rw [hset, hview]
          · rw [hset, hview]
      · rfl
  · rfl
  · rfl

end Home

end DeviceGateway
