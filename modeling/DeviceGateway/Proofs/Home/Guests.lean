import DeviceGateway.Proofs.Home.Lanes
import DeviceGateway.Proofs.Home.View

/-
  Guests are not noticed. What everybody else can tell of a hall is the view of its home and of what
  the tasks have at hand. What a guest asks leaves the view as it is (`step_byGuest`), and what
  anybody else does is settled by the view (`step_view`). So a run without what guests ask looks the
  same to all others (`guests_go_unnoticed`).
-/

open DeviceGateway.Channel

namespace DeviceGateway

namespace Home

variable {w v : Hall} {id : Nat} {s : Session} {m : Move}

/-! ## The hall -/

/-- Is this the session of a guest? -/
def isGuest (h : Home) (id : Nat) : Bool := (h.sessions.get? id).any (·.owner.isGuest)

/-- What others can tell of the hall. -/
def Hall.view (w : Hall) : Hall where
  home := w.home.view
  answers id := if w.home.isGuest id then none else w.answers id

/-- Does a guest ask for something by this move? -/
def Move.byGuest (w : Hall) : Move → Bool
  | dispatch id _ | enqueue id => w.home.isGuest id
  | resource who _ | set who _ _ => who.isGuest
  | _ => false

/-- What others than guests are given. -/
def toOthers (notes : List (Principal × Note)) : List (Principal × Note) :=
  notes.filter fun n => !n.1.isGuest

/-- The moves without what guests ask for. -/
def withoutGuests (w : Hall) : List Move → List Move
  | [] => []
  | m :: moves =>
    if m.byGuest w then withoutGuests (w.step m).1 moves
    else m :: withoutGuests (w.step m).1 moves

theorem isGuest_view (h : Home) (id : Nat) : h.view.isGuest id = h.isGuest id := by
  show (h.sessions.view.get? id).any _ = _
  unfold isGuest
  rw [Sessions.get?_view]
  cases h.sessions.get? id with
  | none => rfl
  | some s => exact congrArg Principal.isGuest s.view_owner

theorem isGuest_of_get? {h : Home} (hs : h.sessions.get? id = some s) :
    h.isGuest id = s.owner.isGuest := by
  unfold isGuest
  rw [hs]
  rfl

/-- The session of a guest stays one. -/
theorem isGuest_perform (a : Act) {h : Home} (hid : h.isGuest id = true) :
    (a.perform h).isGuest id = true := by
  cases hs : h.sessions.get? id with
  | none =>
    unfold isGuest at hid
    rw [hs] at hid
    cases hid
  | some s =>
    rw [isGuest_of_get? hs] at hid
    rw [isGuest_of_get? (get?_perform a hs)]
    have howner : (a.touched id (s.sendAll (a.offers id h)).1).owner = s.owner := by
      rw [← s.sendAll_owner (a.offers id h)]
      unfold Act.touched
      split
      · split
        · exact (Session.touch_discreet _).owner_eq _
        · rfl
      · rfl
    rw [howner, hid]

theorem isGuest_step (m : Move) (hid : (w.step m).1.home.isGuest id = false) :
    w.home.isGuest id = false := by
  cases hw : w.home.isGuest id with
  | false => rfl
  | true =>
    rw [step_home] at hid
    split at hid
    · rw [isGuest_perform _ hw] at hid
      cases hid
    · rw [hw] at hid
      cases hid

theorem hall_view_congr (hhome : w.home.view = v.home.view)
    (hanswers : ∀ id, w.home.isGuest id = false → w.answers id = v.answers id) :
    w.view = v.view := by
  have hguest : ∀ id, w.home.isGuest id = v.home.isGuest id := by
    intro id
    rw [← isGuest_view, hhome, isGuest_view]
  unfold Hall.view
  rw [hhome]
  congr 1
  funext id
  rw [← hguest]
  split
  · rfl
  · next h => exact hanswers id (Bool.not_eq_true _ ▸ h)

/-- The session of somebody else is as it is seen. -/
theorem get?_view_of_other (hid : w.home.isGuest id = false) :
    w.view.home.sessions.get? id = w.home.sessions.get? id := by
  show w.home.sessions.view.get? id = _
  rw [Sessions.get?_view]
  cases hs : w.home.sessions.get? id with
  | none => rfl
  | some s =>
    rw [isGuest_of_get? hs] at hid
    exact congrArg some (Session.view_of_other hid)

theorem answers_view_of_other (hid : w.home.isGuest id = false) :
    w.view.answers id = w.answers id := by
  show (if w.home.isGuest id then none else w.answers id) = _
  rw [hid]
  rfl

theorem reader?_view_of_other (hid : w.home.isGuest id = false) :
    w.view.reader? id = w.reader? id := by
  unfold Hall.reader?
  rw [answers_view_of_other hid, get?_view_of_other hid]

theorem get?_of_reader (hs : w.reader? id = some s) : w.home.sessions.get? id = some s := by
  unfold Hall.reader? at hs
  split at hs
  · exact hs
  · cases hs

/-! ## Moves of guests -/

theorem outcome_of_guest {q : Ask} (hq : q.who.isGuest = true) (h : Home) :
    (q.outcome h).1 = h := by
  rcases q.answers h with ⟨_, _, hhome⟩ | ⟨name, state, hgranted, _, _, _⟩
  · exact hhome
  · unfold Ask.granted at hgranted
    simp [Principal.allows_of_isGuest hq] at hgranted

/-- What a guest asks for leaves the view of the home as it is. -/
theorem home_byGuest (hm : m.byGuest w = true) : (w.step m).1.home.view = w.home.view := by
  rw [step_home]
  cases m with
  | dispatch id text =>
    simp only [Move.act?]
    cases hs : w.reader? id with
    | none => rfl
    | some s =>
      have hguest : s.owner.isGuest = true := (isGuest_of_get? (get?_of_reader hs)).symm.trans hm
      exact congrArg view (outcome_of_guest (q := .message s.owner id text) hguest w.home)
  | enqueue id =>
    simp only [Move.act?]
    cases w.answers id with
    | none => rfl
    | some r =>
      show Home.mk w.home.devices (w.home.sessions.send id r.text).1.view = _
      rw [Sessions.view_send hm]
      rfl
  | resource who r => exact congrArg view (outcome_of_guest (q := .resource who r) hm w.home)
  | set who name state =>
    exact congrArg view (outcome_of_guest (q := .set who name state) hm w.home)
  | _ => cases hm

theorem answers_byGuest (hm : m.byGuest w = true) (hid : w.home.isGuest id = false) :
    (w.step m).1.answers id = w.answers id := by
  refine step_answers_of_ne ?_
  have hne : ∀ j, w.home.isGuest j = true → decide (j = id) = false := by
    intro j hj
    refine decide_eq_false fun heq => ?_
    rw [heq, hid] at hj
    cases hj
  cases m with
  | dispatch j text => exact hne j hm
  | enqueue j => exact hne j hm
  | resource who r => rfl
  | set who name state => rfl
  | _ => cases hm

theorem toOthers_of_guest {who : Principal} (hwho : who.isGuest = true) (note : Note) :
    toOthers [(who, note)] = [] :=
  List.filter_cons_of_neg (by simp [hwho])

theorem notes_byGuest (hm : m.byGuest w = true) : toOthers (w.step m).2.toList = [] := by
  cases m with
  | dispatch id text =>
    show toOthers (w.dispatch id text).2.toList = []
    cases hs : w.reader? id with
    | none =>
      simp only [Hall.dispatch, hs]
      rfl
    | some s =>
      have hguest : s.owner.isGuest = true := (isGuest_of_get? (get?_of_reader hs)).symm.trans hm
      rw [dispatch_of_reader hs]
      split
      · exact toOthers_of_guest hguest _
      · exact toOthers_of_guest hguest _
  | enqueue id => rfl
  | resource who r => exact toOthers_of_guest hm _
  | set who name state =>
    show toOthers (w.set who name state).2.toList = []
    unfold Hall.set
    split
    · exact toOthers_of_guest hm _
    · exact toOthers_of_guest hm _
  | _ => cases hm

/-- What a guest asks for leaves the view as it is, and gives nothing to others. -/
theorem step_byGuest (hm : m.byGuest w = true) :
    (w.step m).1.view = w.view ∧ toOthers (w.step m).2.toList = [] := by
  refine ⟨(hall_view_congr (home_byGuest hm).symm fun id hid => ?_).symm, notes_byGuest hm⟩
  exact (answers_byGuest hm hid).symm

/-! ## Moves of others -/

theorem act?_view (hm : m.byGuest w = false) : m.act? w.view = m.act? w := by
  cases m with
  | dispatch id text =>
    simp only [Move.act?]
    rw [reader?_view_of_other hm]
  | enqueue id =>
    simp only [Move.act?]
    rw [answers_view_of_other hm]
  | _ => rfl

/-- A message of somebody else is answered as the view says. -/
theorem dispatch_view_of_other (hid : w.home.isGuest id = false) (text : String) :
    (w.view.dispatch id text).1.answers id = (w.dispatch id text).1.answers id ∧
      (w.view.dispatch id text).2 = (w.dispatch id text).2 := by
  have hview := reader?_view_of_other hid
  cases hs : w.reader? id with
  | none =>
    rw [hs] at hview
    simp only [Hall.dispatch, hs, hview]
    exact ⟨answers_view_of_other hid, trivial⟩
  | some s =>
    rw [hs] at hview
    rw [dispatch_of_reader hs, dispatch_of_reader hview]
    split
    · exact ⟨answers_view_of_other hid, rfl⟩
    · next request _ =>
      have hanswer := dispatch_view { owner := s.owner, request, session := id } w.home
      simp only [Hall.withAnswer, if_true]
      exact ⟨congrArg some hanswer, congrArg (fun r => some (s.owner, Note.answer id r)) hanswer⟩

theorem answers_view (hm : m.byGuest w = false) (hid : w.home.isGuest id = false) :
    (w.view.step m).1.answers id = (w.step m).1.answers id := by
  by_cases hof : m.isOf id = true
  · cases m with
    | touch j t => exact answers_view_of_other hid
    | dispatch j text =>
      obtain rfl : j = id := of_decide_eq_true hof
      exact (dispatch_view_of_other hid text).1
    | enqueue j =>
      obtain rfl : j = id := of_decide_eq_true hof
      have hview := answers_view_of_other hid
      show (w.view.enqueue j).answers j = (w.enqueue j).answers j
      unfold Hall.enqueue
      rw [hview]
      cases hr : w.answers j with
      | none => exact hview
      | some r => simp only [Hall.withAnswer, if_true]
    | _ => cases hof
  · rw [Bool.not_eq_true] at hof
    rw [step_answers_of_ne hof, step_answers_of_ne hof, answers_view_of_other hid]

theorem receipt_view (w : Hall) (id : Nat) (t : Touch) :
    toOthers (w.view.receipt id t).toList = toOthers (w.receipt id t).toList := by
  unfold Hall.receipt
  cases hid : w.home.isGuest id with
  | false => rw [get?_view_of_other hid]
  | true =>
    have hnone : ∀ s : Session, s.owner.isGuest = true →
        toOthers ((t.taken s).head?.map fun text =>
          (s.owner, Note.received id text)).toList = [] := by
      intro s hs
      cases (t.taken s).head? with
      | none => rfl
      | some text => exact toOthers_of_guest hs _
    show toOthers ((w.home.sessions.view.get? id).bind _).toList = _
    rw [Sessions.get?_view]
    cases hs : w.home.sessions.get? id with
    | none => rfl
    | some s =>
      rw [isGuest_of_get? hs] at hid
      exact (hnone s.view (by rw [Session.view_owner, hid])).trans (hnone s hid).symm

theorem notes_view (hm : m.byGuest w = false) :
    toOthers (w.view.step m).2.toList = toOthers (w.step m).2.toList := by
  cases m with
  | touch id t => exact receipt_view w id t
  | dispatch id text =>
    exact congrArg (fun n => toOthers n.toList) (dispatch_view_of_other hm text).2
  | resource who r =>
    show toOthers [(who, .served (w.home.view.serve who r).2)] = _
    rw [serve_view]
    rfl
  | set who name state =>
    show toOthers (w.view.set who name state).2.toList = toOthers (w.set who name state).2.toList
    unfold Hall.set
    rcases set_view w.home who name state with ⟨hset, hview⟩ | ⟨e, hset, hview⟩
    · rw [hset, show w.view.home.set who name state = _ from hview]
    · rw [hset, show w.view.home.set who name state = _ from hview]
  | _ => rfl

/-- What others do is settled by the view. -/
theorem step_view (hm : m.byGuest w = false) :
    (w.view.step m).1.view = (w.step m).1.view ∧
      toOthers (w.view.step m).2.toList = toOthers (w.step m).2.toList := by
  refine ⟨hall_view_congr ?_ fun id hid => ?_, notes_view hm⟩
  · rw [step_home, step_home, act?_view hm]
    cases m.act? w with
    | none => exact view_view w.home
    | some a => exact perform_view a w.home
  · have hbefore := isGuest_step m hid
    exact answers_view hm ((isGuest_view w.home id).symm.trans hbefore)

/-! ## Runs -/

theorem byGuest_of_view (hview : w.view = v.view) (m : Move) : m.byGuest w = m.byGuest v := by
  have hguest : ∀ id, w.home.isGuest id = v.home.isGuest id := by
    intro id
    rw [← isGuest_view, ← isGuest_view v.home]
    exact congrArg (fun u : Hall => u.home.isGuest id) hview
  cases m with
  | dispatch id text => exact hguest id
  | enqueue id => exact hguest id
  | _ => rfl

/-- What others do in halls of one view leads to halls of one view, and gives them the same. -/
theorem step_of_view (hview : w.view = v.view) (hm : m.byGuest w = false) :
    (w.step m).1.view = (v.step m).1.view ∧
      toOthers (w.step m).2.toList = toOthers (v.step m).2.toList := by
  have hw := step_view hm
  have hv := step_view ((byGuest_of_view hview m).symm.trans hm)
  rw [hview] at hw
  exact ⟨hw.1.symm.trans hv.1, hw.2.symm.trans hv.2⟩

theorem toOthers_append (notes more : List (Principal × Note)) :
    toOthers (notes ++ more) = toOthers notes ++ toOthers more :=
  List.filter_append notes more

/-- A run and the same run without what guests ask for, from halls of one view. -/
theorem run_of_view (moves : List Move) (hview : w.view = v.view) :
    (w.run moves).1.view = (v.run (withoutGuests w moves)).1.view ∧
      toOthers (w.run moves).2 = toOthers (v.run (withoutGuests w moves)).2 := by
  induction moves generalizing w v with
  | nil => exact ⟨hview, rfl⟩
  | cons m moves ih =>
    unfold withoutGuests
    cases hm : m.byGuest w with
    | true =>
      -- the run with the move comes to the view that the run without it still has
      obtain ⟨hsame, hnone⟩ := step_byGuest hm
      obtain ⟨hrun, hnotes⟩ := ih (hsame.trans hview)
      refine ⟨hrun, ?_⟩
      show toOthers ((w.step m).2.toList ++ ((w.step m).1.run moves).2) = _
      rw [toOthers_append, hnone]
      exact hnotes
    | false =>
      obtain ⟨hsame, hgiven⟩ := step_of_view hview hm
      obtain ⟨hrun, hnotes⟩ := ih hsame
      refine ⟨hrun, ?_⟩
      show toOthers ((w.step m).2.toList ++ ((w.step m).1.run moves).2) =
        toOthers ((v.step m).2.toList ++ ((v.step m).1.run _).2)
      rw [toOthers_append, toOthers_append, hgiven, hnotes]

/-- The sessions of others are what the view says. -/
theorem others_of_view (hview : w.view = v.view) (id : Nat) :
    (w.home.sessions.get? id).filter (!·.owner.isGuest) =
      (v.home.sessions.get? id).filter (!·.owner.isGuest) := by
  have hothers : ∀ u : Hall, (u.home.sessions.get? id).filter (!·.owner.isGuest) =
      (u.view.home.sessions.get? id).filter (!·.owner.isGuest) := by
    intro u
    show _ = (u.home.sessions.view.get? id).filter _
    rw [Sessions.get?_view]
    cases u.home.sessions.get? id with
    | none => rfl
    | some s =>
      cases hs : s.owner.isGuest with
      | true => simp [Option.filter, hs, Session.view_owner]
      | false => rw [Option.map_some, Session.view_of_other hs]
  rw [hothers w, hothers v, hview]

/-- Whatever guests ask for, on sessions, of resources or directly: without it, a run ends with the
same devices and with the same sessions of all others, what waits in their queues included, and all
others are given the same in the same order: answers to messages and to requests, and the texts
that their clients receive. -/
theorem guests_go_unnoticed (w : Hall) (moves : List Move) :
    (w.run moves).1.home.devices = (w.run (withoutGuests w moves)).1.home.devices ∧
    (∀ id, ((w.run moves).1.home.sessions.get? id).filter (!·.owner.isGuest) =
      ((w.run (withoutGuests w moves)).1.home.sessions.get? id).filter (!·.owner.isGuest)) ∧
    toOthers (w.run moves).2 = toOthers (w.run (withoutGuests w moves)).2 := by
  obtain ⟨hview, hnotes⟩ := run_of_view moves (rfl : w.view = w.view)
  have hdevices : (w.run moves).1.view.home.devices =
      (w.run (withoutGuests w moves)).1.view.home.devices := by rw [hview]
  exact ⟨hdevices, others_of_view hview, hnotes⟩

end Home

end DeviceGateway
