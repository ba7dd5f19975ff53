import DeviceGateway.Home.Resources
import DeviceGateway.Proofs.Channel.Queue

/-
  What requests do to a home. A request comes in as a message, as a command, as a request for a
  resource, or as a direct change. It makes the change that it asks for, when that is permitted and
  there is such a device, and reports success; any other leaves the home as it was (`Ask.answers`).
-/

open DeviceGateway.Channel

namespace DeviceGateway.Home

/-- A request, on any of the ways on which requests come in. -/
inductive Ask
  /-- A message of a channel, well-formed or not. -/
  | message (owner : Principal) (id : Nat) (text : String)
  | command (call : Call)
  | resource (who : Principal) (r : ResourceRequest)
  | set (who : Principal) (name : String) (state : Json)

/-- The change that a command asks for. -/
def asked (request : Request) : Option (String × Json) :=
  if request.command = "setdevice" then
    match request.text? "name", request.param? "state" with
    | some name, some state => some (name, state)
    | _, _ => none
  else none

/-- The change that a request for a resource asks for. -/
def put (r : ResourceRequest) : Option (String × Json) :=
  match r.segments with
  | ["devices", name] =>
    if r.method = "PUT" then (Json.parse r.body).toOption.map fun state => (name, state) else none
  | _ => none

namespace Ask

/-- Who makes the request. -/
def who : Ask → Principal
  | message owner _ _ => owner
  | command call => call.owner
  | resource who _ => who
  | set who _ _ => who

/-- What a request makes of the home, and whether it reports success. -/
def outcome : Ask → Home → Home × Bool
  | message owner id text, h => match Request.parse text with
    | .ok request =>
      let (h', r) := commands.dispatch ⟨owner, request, id⟩ h
      (h', r.isAck)
    | .error _ => (h, false)
  | command call, h =>
    let (h', r) := commands.dispatch call h
    (h', r.isAck)
  | resource who r, h => match h.serve who r with
    | (h', .ok _) => (h', true)
    | (h', .error _) => (h', false)
  | set who name state, h => match h.set who name state with
    | .ok h' => (h', true)
    | .error _ => (h, false)

/-- The change that a request asks for, if it is well-formed and asks for one. -/
def asks : Ask → Option (String × Json)
  | message _ _ text => (Request.parse text).toOption.bind asked
  | command call => asked call.request
  | resource _ r => put r
  | set _ name state => some (name, state)

/-- The change that a request makes: the one that it asks for, when it reports success. -/
def change? (q : Ask) (h : Home) : Option (String × Json) :=
  if (q.outcome h).2 then q.asks else none

/-- The change that a request asks for, when its maker may make it and there is such a device. -/
def granted (q : Ask) (h : Home) : Option (String × Json) :=
  q.asks.filter fun c => q.who.allows .control && (h.get? c.1).isSome

/-- Does a request make the change that is granted to it, and leave the home as it was when there
is none? -/
def Answers (q : Ask) (h : Home) : Prop :=
  (q.granted h = none ∧ q.change? h = none ∧ (q.outcome h).1 = h) ∨
  ∃ name state, q.granted h = some (name, state) ∧ q.change? h = some (name, state) ∧
    (h.get? name).isSome = true ∧ (q.outcome h).1 = h.stored name state

end Ask

variable {q : Ask} {h : Home} {name : String} {state : Json}

theorem answers_of_still (hasks : q.asks = none) (hstill : (q.outcome h).1 = h) :
    q.Answers h := by
  unfold Ask.Answers Ask.granted Ask.change?
  rw [hasks]
  exact Or.inl ⟨rfl, ite_self none, hstill⟩

/-- A direct change succeeds or fails as one, whatever request it stands for. -/
theorem answers_of_set (who : Principal) (hwho : q.who = who)
    (hasks : q.asks = some (name, state))
    (hok : ∀ h', h.set who name state = .ok h' → q.outcome h = (h', true))
    (herror : ∀ e, h.set who name state = .error e → q.outcome h = (h, false)) :
    q.Answers h := by
  subst hwho
  unfold Ask.Answers Ask.granted Ask.change?
  rcases set_cases h q.who name state with ⟨hgrant, hset⟩ | ⟨hgrant, e, hset⟩
  · rw [hok _ hset, hasks, Option.filter_some, if_pos hgrant]
    exact Or.inr ⟨name, state, rfl, rfl, (Bool.and_eq_true_iff.mp hgrant).2, rfl⟩
  · rw [herror e hset, hasks, Option.filter_some, if_neg (by rw [hgrant]; decide)]
    exact Or.inl ⟨rfl, rfl, rfl⟩

/-! ## Commands -/

/-- Of the commands, only one can change a device. -/
theorem commands_still : commands.All fun name f =>
    name ≠ "setdevice" → ∀ call h, (f call h).world = h :=
  commands_all (fun _ _ _ hf _ => hf) fun h => absurd rfl h

theorem dispatch_setDevice {call : Call} (hname : call.request.command = "setdevice") (h : Home) :
    commands.dispatch call h = ((setDevice call h).world,
      CommandTable.respond call.request.msgid (setDevice call h).edits
        (setDevice call h).failure) := by
  have hfind : commands.find? call.request.command = some setDevice := by
    rw [hname]
    rfl
  unfold CommandTable.dispatch
  rw [hfind]

theorem command_answers (call : Call) (h : Home) : (Ask.command call).Answers h := by
  have hout : (Ask.command call).outcome h =
      ((commands.dispatch call h).1, (commands.dispatch call h).2.isAck) := rfl
  have hasks : (Ask.command call).asks = asked call.request := rfl
  unfold asked at hasks
  by_cases hname : call.request.command = "setdevice"
  · have hdispatch := dispatch_setDevice hname h
    unfold setDevice at hdispatch
    rw [if_pos hname] at hasks
    cases hn : call.request.text? "name" with
    | none =>
      rw [hn] at hasks hdispatch
      exact answers_of_still hasks (by rw [hout, hdispatch])
    | some name =>
      cases hv : call.request.param? "state" with
      | none =>
        rw [hn, hv] at hasks hdispatch
        exact answers_of_still hasks (by rw [hout, hdispatch])
      | some state =>
        rw [hn, hv] at hasks hdispatch
        refine answers_of_set call.owner rfl hasks ?_ ?_
        · intro h' hset
          rw [hout, hdispatch]
          dsimp only
          rw [hset]
          rfl
        · intro e hset
          rw [hout, hdispatch]
          dsimp only
          rw [hset]
          rfl
  · rw [if_neg hname] at hasks
    refine answers_of_still hasks ?_
    rw [hout]
    rcases commands_still.dispatch call h with heq | ⟨f, hf, heq⟩
    · rw [heq]
    · rw [heq]
      exact hf hname call h

/-- A message that is well-formed is the request that it writes. -/
theorem message_answers (owner : Principal) (id : Nat) (text : String) (h : Home) :
    (Ask.message owner id text).Answers h := by
  cases hparse : Request.parse text with
  | error e =>
    refine answers_of_still ?_ ?_
    · simp only [Ask.asks, hparse]
      rfl
    · simp only [Ask.outcome, hparse]
  | ok request =>
    have hsame := command_answers ⟨owner, request, id⟩ h
    have hout : (Ask.message owner id text).outcome h =
        (Ask.command ⟨owner, request, id⟩).outcome h := by
      simp only [Ask.outcome, hparse]
    have hasks : (Ask.message owner id text).asks = (Ask.command ⟨owner, request, id⟩).asks := by
      simp only [Ask.asks, hparse]
      rfl
    unfold Ask.Answers Ask.granted Ask.change? at hsame ⊢
    rw [hout, hasks]
    exact hsame

theorem set_answers (who : Principal) (name : String) (state : Json) (h : Home) :
    (Ask.set who name state).Answers h := by
  refine answers_of_set who rfl rfl ?_ ?_
  · intro h' hset
    simp only [Ask.outcome, hset]
  · intro e hset
    simp only [Ask.outcome, hset]

/-! ## Resources -/

/-- Whatever is no well-formed change is served from what there is. -/
theorem serve_of_put (h : Home) (who : Principal) {r : ResourceRequest} (hput : put r = none) :
    (h.serve who r).1 = h := by
  unfold put at hput
  unfold serve
  split at hput
  · next name hsegments =>
    rw [hsegments]
    by_cases hget : r.method = "GET"
    · simp only [hget, if_true]
      cases h.get? name <;> rfl
    · by_cases hmethod : r.method = "PUT"
      · rw [if_pos hmethod] at hput
        cases hparse : Json.parse r.body with
        | error fault => simp [hmethod]
        | ok state =>
          rw [hparse] at hput
          cases hput
      · simp [hget, hmethod]
  · next hother =>
    split
    · split <;> rfl
    · next name hsegments => exact absurd hsegments (hother name)
    · rfl
    · rfl

/-- A well-formed change is served as a direct one. -/
theorem serve_put (h : Home) (who : Principal) {r : ResourceRequest}
    (hput : put r = some (name, state)) :
    h.serve who r = match h.set who name state with
      | .ok h' => (h', .ok (.json (device name state)))
      | .error e => (h, .error (.ofCommand e)) := by
  unfold put at hput
  unfold serve
  split at hput
  · next n hsegments =>
    rw [hsegments]
    by_cases hmethod : r.method = "PUT"
    · have hget : r.method ≠ "GET" := by
        rw [hmethod]
        decide
      rw [if_pos hmethod] at hput
      cases hparse : Json.parse r.body with
      | error fault =>
        rw [hparse] at hput
        cases hput
      | ok v =>
        rw [hparse] at hput
        cases hput
        cases hset : h.set who name state with
        | ok h' => simp only [if_neg hget, if_pos hmethod, hset]
        | error e => simp only [if_neg hget, if_pos hmethod, hset]
    · rw [if_neg hmethod] at hput
      cases hput
  · cases hput

theorem resource_answers (who : Principal) (r : ResourceRequest) (h : Home) :
    (Ask.resource who r).Answers h := by
  have hasks : (Ask.resource who r).asks = put r := rfl
  cases hput : put r with
  | none =>
    refine answers_of_still (hasks.trans hput) ?_
    have hserve := serve_of_put h who hput
    simp only [Ask.outcome]
    split
    · next h' _ heq => rw [← hserve, heq]
    · next h' _ heq => rw [← hserve, heq]
  | some c =>
    obtain ⟨name, state⟩ := c
    have hserve := serve_put h who hput
    refine answers_of_set who rfl (hasks.trans hput) ?_ ?_
    · intro h' hset
      rw [hset] at hserve
      simp only [Ask.outcome, hserve]
    · intro e hset
      rw [hset] at hserve
      simp only [Ask.outcome, hserve]

/-- Every request makes the change that it asks for, or leaves all as it is. -/
theorem Ask.answers (q : Ask) (h : Home) : q.Answers h := by
  cases q with
  | message owner id text => exact message_answers owner id text h
  | command call => exact command_answers call h
  | resource who r => exact resource_answers who r h
  | set who name state => exact set_answers who name state h

end DeviceGateway.Home
