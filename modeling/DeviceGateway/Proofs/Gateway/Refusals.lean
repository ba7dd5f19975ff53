import DeviceGateway.Gateway.Connection
import DeviceGateway.Proofs.Access.TokenTable

/-
  What a gateway says and does when nobody is authenticated. Two heads that differ in nothing but
  their `Authorization` header, sent to gateways that differ in nothing but their credentials, get
  the same reply as long as neither authenticates (`refused_alike`): a client learns nothing about
  why it was refused. All that is done for it is that the credentials are asked, which may sweep
  dead tokens out, and that the help text has the channels counted (`Spared`), which drops sessions
  that nobody holds any more from the registry (`help_drops_unheld`).
-/

namespace DeviceGateway

open DeviceGateway.Stream (Pipe)
open Http (Head Header Headers Reply)

/-! ## Heads that differ in their credentials -/

namespace Http

/-- The header fields that have nothing to do with authentication. -/
def Headers.apart (hs : Headers) : Headers := hs.filter (·.name ≠ "authorization")

/-- The header fields that ask for a channel. -/
def Headers.upgrading (hs : Headers) : Headers :=
  hs.filter (·.name ∈ ["upgrade", "connection", "sec-websocket-version", "sec-websocket-key"])

/-- Are two heads the same but for how they authenticate? -/
structure Head.SameApart (h₁ h₂ : Head) : Prop where
  method : h₁.method = h₂.method
  path : h₁.path = h₂.path
  query : h₁.query = h₂.query
  version : h₁.version = h₂.version
  headers : h₁.headers.apart = h₂.headers.apart

variable {hs hs₁ hs₂ : Headers} {name token : String} {keep : Header → Bool}

/-- The values of a name are found among any header fields that have all of its own. -/
theorem Headers.values_filter (hkeep : ∀ h : Header, h.name = lowerName name → keep h = true) :
    Headers.values name (hs.filter keep) = Headers.values name hs := by
  unfold Headers.values
  rw [List.filter_filter]
  congr 1
  refine List.filter_congr fun h _ => ?_
  by_cases hname : h.name = lowerName name
  · rw [hkeep h hname, Bool.and_true]
  · rw [decide_eq_false hname, Bool.false_and]

theorem Headers.text?_congr (h : Headers.values name hs₁ = Headers.values name hs₂) :
    Headers.text? name hs₁ = Headers.text? name hs₂ := by
  unfold Headers.text?
  rw [h]

theorem Headers.hasToken_congr (h : Headers.values name hs₁ = Headers.values name hs₂) :
    Headers.hasToken name token hs₁ = Headers.hasToken name token hs₂ := by
  unfold Headers.hasToken
  rw [h]

/-- Whether a channel is asked for depends on the method and on four header fields. -/
theorem channelKey?_upgrading (method : String) (hs : Headers) :
    channelKey? method hs.upgrading = channelKey? method hs := by
  have hvalues : ∀ name, lowerName name ∈
      ["upgrade", "connection", "sec-websocket-version", "sec-websocket-key"] →
      Headers.values name hs.upgrading = Headers.values name hs := by
    intro name hmem
    refine Headers.values_filter fun h hname => ?_
    rw [hname]
    exact decide_eq_true hmem
  unfold channelKey?
  rw [Headers.hasToken_congr (hvalues "upgrade" (by decide)),
    Headers.hasToken_congr (hvalues "connection" (by decide)),
    Headers.text?_congr (hvalues "sec-websocket-version" (by decide)),
    Headers.text?_congr (hvalues "sec-websocket-key" (by decide))]

/-- The fields that ask for a channel are no credentials. -/
theorem Headers.upgrading_apart (hs : Headers) : hs.apart.upgrading = hs.upgrading := by
  unfold Headers.apart Headers.upgrading
  rw [List.filter_filter]
  refine List.filter_congr fun h _ => ?_
  by_cases hname : h.name = "authorization"
  · rw [hname]
    rfl
  · rw [decide_eq_true hname, Bool.and_true]

theorem Head.SameApart.channelKey? {h₁ h₂ : Head} (hsame : h₁.SameApart h₂) :
    Http.channelKey? h₁.method h₁.headers = Http.channelKey? h₂.method h₂.headers := by
  rw [← channelKey?_upgrading, ← channelKey?_upgrading h₂.method, ← Headers.upgrading_apart,
    ← Headers.upgrading_apart h₂.headers, hsame.method, hsame.headers]

/-- An error is a bad request, and the connection is closed after it. -/
theorem Reply.error_closes (message : String) :
    (Reply.error message).status = 400 ∧ (Reply.error message).closes = true := ⟨rfl, rfl⟩

end Http

/-! ## Credentials that were asked in vain -/

namespace Credentials

variable {c : Credentials} {now later : Nat} {text : String} {p : Principal}

/-- A token that is alive was alive before. -/
theorem isLive_of_le {t : Token} (hle : now ≤ later) (h : c.isLive later t = true) :
    c.isLive now t = true := by
  unfold isLive at h ⊢
  rw [decide_eq_true_iff] at h ⊢
  omega

/-- Whom a lookup finds, it still finds after a sweep. -/
theorem verifyToken_prune (hle : now ≤ later) (h : (c.verifyToken later text).2 = .ok p) :
    ((c.prune now).verifyToken later text).2 = .ok p := by
  unfold verifyToken at h ⊢
  cases hfind : c.tokens.find? (·.text = text) with
  | none =>
    rw [hfind] at h
    cases h
  | some t =>
    rw [hfind] at h
    dsimp only at h
    have hlive : c.isLive later t = true := by
      cases hlive : c.isLive later t with
      | true => rfl
      | false =>
        rw [hlive] at h
        cases h
    have hkept : (c.prune now).tokens.find? (·.text = text) = some t := by
      obtain ⟨htext, before, after, hsplit, hbefore⟩ := List.find?_eq_some_iff_append.mp hfind
      refine List.find?_eq_some_iff_append.mpr ⟨htext, before.filter (c.isLive now),
        after.filter (c.isLive now), ?_, ?_⟩
      · show c.tokens.filter (c.isLive now) = _
        rw [hsplit, List.filter_append, List.filter_cons_of_pos (isLive_of_le hle hlive)]
      · intro u hu
        exact hbefore u (List.mem_filter.mp hu).1
    have hlive' : (c.prune now).isLive later t = true := hlive
    rw [hkept]
    dsimp only
    rw [if_pos hlive']
    rw [if_pos hlive] at h
    exact h

/-- Whatever a header claims, the store is left as it is, or swept. -/
theorem authorize_cases (c : Credentials) (now : Nat) (header : Option String) :
    (c.authorize now header).1 = c ∨ (c.authorize now header).1 = c.prune now := by
  unfold authorize
  split
  · exact Or.inl rfl
  · exact verifyToken_cases c now _
  · exact Or.inl rfl

end Credentials

/-! ## Requests that do not authenticate -/

namespace Gateway

/-- The gateway with other credentials. -/
def trusting (g : Gateway) (credentials : Credentials) : Gateway := { g with credentials }

/-- What a gateway is after a request that did not authenticate: no device and no session is
another, no token was issued, and whoever was known by a token is still known by it, for as long as
it would have been. The registry is the same, too, but when the channels were counted for the help
text: then it is without the sessions that nobody held. -/
structure Spared (now : Nat) (h : Head) (g g' : Gateway) : Prop where
  devices : g'.home.devices = g.home.devices
  sessions : g'.sessions.all = g.sessions.all
  registered : g'.sessions.prune = g.sessions.prune
  home : Route.ofPath h.path ≠ .help → g'.home = g.home
  counted : Route.ofPath h.path = .help →
    g'.home = { g.home with sessions := g.home.sessions.prune }
  made : g'.made = g.made
  accounts : g'.credentials.accounts = g.credentials.accounts
  life : g'.credentials.life = g.credentials.life
  tokens : g'.credentials.tokens.Sublist g.credentials.tokens
  alive : ∀ t ∈ g.credentials.tokens, g.credentials.isLive now t = true →
    t ∈ g'.credentials.tokens
  valid : ∀ later text p, now ≤ later → (g.credentials.verifyToken later text).2 = .ok p →
    (g'.credentials.verifyToken later text).2 = .ok p
  rest : g' = { g with credentials := g'.credentials, home := g'.home }

variable {g : Gateway} {now : Nat} {h h₁ h₂ : Head}

theorem Spared.refl (hroute : Route.ofPath h.path ≠ .help) (now : Nat) (g : Gateway) :
    Spared now h g g :=
  ⟨rfl, rfl, rfl, fun _ => rfl, fun heq => absurd heq hroute, rfl, rfl, rfl, List.Sublist.refl _,
    fun _ ht _ => ht, fun _ _ _ _ hp => hp, rfl⟩

/-- To be asked who somebody is costs a gateway no more than dead tokens. -/
theorem spared_authenticate (hroute : Route.ofPath h.path ≠ .help) (g : Gateway) (now : Nat) :
    Spared now h g (g.authenticate now h).1 := by
  have hstore : (g.authenticate now h).1 = g ∨
      (g.authenticate now h).1 = { g with credentials := g.credentials.prune now } := by
    unfold authenticate
    dsimp only
    rcases g.credentials.authorize_cases now (h.headers.text? "authorization") with hc | hc
    · exact Or.inl (by rw [hc])
    · exact Or.inr (by rw [hc])
  rcases hstore with hg | hg
  · rw [hg]
    exact Spared.refl hroute now g
  · rw [hg]
    exact ⟨rfl, rfl, rfl, fun _ => rfl, fun heq => absurd heq hroute, rfl, rfl, rfl,
      List.filter_sublist, fun t ht hlive => List.mem_filter.mpr ⟨ht, hlive⟩,
      fun later text p hle hp => Credentials.verifyToken_prune hle hp, rfl⟩

/-- Counting the channels drops registered sessions that nobody holds, and nothing else. -/
theorem spared_help (hroute : Route.ofPath h.path = .help) : Spared now h g g.help.1 := by
  have hprune : g.sessions.prune.prune = g.sessions.prune := by
    show Channel.Sessions.mk g.sessions.all
      ((g.sessions.entries.filter g.sessions.isHeld).filter g.sessions.isHeld) = g.sessions.prune
    rw [List.filter_eq_self.mpr fun id hid => (List.mem_filter.mp hid).2]
    rfl
  exact ⟨rfl, rfl, hprune, fun hne => absurd hroute hne, fun _ => rfl, rfl, rfl, rfl,
    List.Sublist.refl _, fun _ ht _ => ht, fun _ _ _ _ hp => hp, rfl⟩

/-- What a head that does not authenticate gets, where it would have to. -/
def refusal (h : Head) : Reply :=
  if Route.ofPath h.path = .channel ∧ (Http.channelKey? h.method h.headers.upgrading).isNone then
    .error "invalid upgrade request"
  else .error authFailed

/-- The reply of the routes that anybody may take. -/
def openReply (g : Gateway) (h : Head) : Reply :=
  match Route.ofPath h.path with
  | .ping => .json 200 (Json.ofPairs [("pong", .bool true)])
  | .help => .plain 200 g.help.2
  | _ => g.asset h

/-- Where a client has to authenticate and does not, it is refused. -/
theorem route_refused (hroute : Route.ofPath h.path ∈ [.resource, .token, .channel])
    (hfail : (g.authenticate now h).2 = none) :
    (g.route now h).2 = .reply (refusal h) ∧ Spared now h g (g.route now h).1 := by
  have hother : Route.ofPath h.path ≠ .help := by
    intro hhelp
    rw [hhelp] at hroute
    exact absurd hroute (by decide)
  have hspared := spared_authenticate hother g now
  obtain ⟨g', hauth⟩ : ∃ g', g.authenticate now h = (g', none) := ⟨_, Prod.ext rfl hfail⟩
  rw [hauth] at hspared
  simp only [List.mem_cons, List.not_mem_nil, or_false] at hroute
  unfold route refusal
  rcases hroute with hroute | hroute | hroute
  · rw [hroute, hauth]
    exact ⟨rfl, hspared⟩
  · rw [hroute, hauth]
    exact ⟨rfl, hspared⟩
  · rw [hroute, Http.channelKey?_upgrading]
    cases hkey : Http.channelKey? h.method h.headers with
    | none => exact ⟨rfl, Spared.refl hother now g⟩
    | some key =>
      dsimp only
      rw [hauth]
      exact ⟨rfl, hspared⟩

/-- Elsewhere nobody is asked who they are. -/
theorem route_open (hroute : Route.ofPath h.path ∉ [.resource, .token, .channel]) (now : Nat) :
    (g.route now h).2 = .reply (g.openReply h) ∧ Spared now h g (g.route now h).1 := by
  unfold route openReply
  cases hpath : Route.ofPath h.path with
  | resource | token | channel =>
    rw [hpath] at hroute
    exact absurd (by decide) hroute
  | help => exact ⟨rfl, spared_help hpath⟩
  | ping | asset => exact ⟨rfl, Spared.refl (by rw [hpath]; decide) now g⟩

theorem refusal_congr (hsame : h₁.SameApart h₂) : refusal h₁ = refusal h₂ := by
  unfold refusal
  rw [Http.channelKey?_upgrading, Http.channelKey?_upgrading, hsame.channelKey?, hsame.path]

theorem openReply_congr (hsame : h₁.SameApart h₂) (g : Gateway) (c₁ c₂ : Credentials) :
    (g.trusting c₁).openReply h₁ = (g.trusting c₂).openReply h₂ := by
  have hasset : (g.trusting c₁).asset h₁ = (g.trusting c₂).asset h₂ := by
    unfold asset
    rw [hsame.method, hsame.path]
    rfl
  unfold openReply
  rw [hsame.path, hasset]
  rfl

end Gateway

/-- What is replied at once needs no body, and no channel comes after it. -/
theorem Connection.serve_of_reply {g : Gateway} {now : Nat} {x : Exchange} {r : Reply}
    (h : (g.route now x.head).2 = .reply r) (p : Pipe) (c : Connection) :
    c.serve g now p x = c.answer (g.route now x.head).1 now p x r .next := by
  obtain ⟨g', hroute⟩ : ∃ g', g.route now x.head = (g', .reply r) := ⟨_, Prod.ext rfl h⟩
  unfold serve
  rw [hroute]

namespace Gateway

/-- Two clients that fail to authenticate, whatever the reasons, get the same reply if their heads
and their gateways differ in nothing else: for resources and tokens it is the error that says so
and closes the connection, for channels it is the same error or the one for requests that do not
ask for a channel properly, and elsewhere it is what anybody gets. It needs no body, and no channel
comes after it. Nothing that others see of the gateway is changed; only the registry, when the help
text is asked for, is without the sessions that nobody held. -/
theorem refused_alike (g : Gateway) (c₁ c₂ : Credentials) (now₁ now₂ : Nat) {h₁ h₂ : Head}
    (hsame : h₁.SameApart h₂)
    (hfail₁ : ((g.trusting c₁).authenticate now₁ h₁).2 = none)
    (hfail₂ : ((g.trusting c₂).authenticate now₂ h₂).2 = none) :
    ∃ r : Reply,
      ((g.trusting c₁).route now₁ h₁).2 = .reply r ∧
      ((g.trusting c₂).route now₂ h₂).2 = .reply r ∧
      (Route.ofPath h₁.path ∈ [.resource, .token] →
        r = .error authFailed ∧ r.status = 400 ∧ r.closes = true) ∧
      (Route.ofPath h₁.path = .channel →
        r = if (Http.channelKey? h₁.method h₁.headers.upgrading).isNone then
          .error "invalid upgrade request" else .error authFailed) ∧
      (Route.ofPath h₁.path ∈ [.ping, .help, .asset] → ∀ c now h, h₁.SameApart h →
        ((g.trusting c).route now h).2 = .reply r) ∧
      (∀ p c x, x.head = h₁ → Connection.serve (g.trusting c₁) now₁ p c x =
        c.answer ((g.trusting c₁).route now₁ h₁).1 now₁ p x r .next) ∧
      Spared now₁ h₁ (g.trusting c₁) ((g.trusting c₁).route now₁ h₁).1 ∧
      Spared now₂ h₂ (g.trusting c₂) ((g.trusting c₂).route now₂ h₂).1 := by
  by_cases hroute : Route.ofPath h₁.path ∈ [.resource, .token, .channel]
  · obtain ⟨hreply₁, hspared₁⟩ := route_refused hroute hfail₁
    obtain ⟨hreply₂, hspared₂⟩ := route_refused (hsame.path ▸ hroute) hfail₂
    refine ⟨refusal h₁, hreply₁, refusal_congr hsame ▸ hreply₂, ?_, ?_, ?_, ?_, hspared₁, hspared₂⟩
    · intro hguarded
      have hrefusal : refusal h₁ = .error authFailed := by
        refine if_neg fun hchannel => ?_
        rw [hchannel.1] at hguarded
        exact absurd hguarded (by decide)
      rw [hrefusal]
      exact ⟨rfl, Reply.error_closes authFailed⟩
    · intro hchannel
      unfold refusal
      rw [hchannel]
      simp only [true_and]
    · intro hopen
      exfalso
      revert hroute hopen
      cases Route.ofPath h₁.path <;> decide
    · rintro p c x rfl
      exact Connection.serve_of_reply hreply₁ p c
  · have hopen : ∀ c now h, h₁.SameApart h →
        ((g.trusting c).route now h).2 = .reply ((g.trusting c₁).openReply h₁) ∧
          Spared now h (g.trusting c) ((g.trusting c).route now h).1 := by
      intro c now h hsame
      rw [openReply_congr hsame g c₁ c]
      exact route_open (hsame.path ▸ hroute) now
    obtain ⟨hreply₁, hspared₁⟩ := hopen c₁ now₁ h₁ ⟨rfl, rfl, rfl, rfl, rfl⟩
    obtain ⟨hreply₂, hspared₂⟩ := hopen c₂ now₂ h₂ hsame
    refine ⟨(g.trusting c₁).openReply h₁, hreply₁, hreply₂, ?_, ?_, ?_, ?_, hspared₁, hspared₂⟩
    · intro hguarded
      have hmem : Route.ofPath h₁.path ∈ [Route.resource, .token] ++ [.channel] :=
        List.mem_append_left _ hguarded
      exact absurd hmem hroute
    · intro hchannel
      rw [hchannel] at hroute
      exact absurd (by decide) hroute
    · exact fun _ c now h hsame => (hopen c now h hsame).1
    · rintro p c x rfl
      exact Connection.serve_of_reply hreply₁ p c

/-- One account, with a token that is dead five seconds after the start and one that is not. -/
def twoTokens : Credentials :=
  { accounts := [⟨"ann", "secret", .guest⟩]
    tokens := [⟨"early", ⟨"ann", .guest⟩, 0⟩, ⟨"late", ⟨"ann", .guest⟩, 4000⟩], life := 2000 }

/-- A token that has died, and a password that nobody has. -/
theorem refused_alike_late :
    let g : Gateway := { tokenText := fun n => toString n }
    let h₁ : Head :=
      { method := "GET", path := "/auth", headers := [⟨"authorization", utf8 "Bearer early"⟩] }
    let h₂ : Head :=
      { method := "GET", path := "/auth", headers := [⟨"authorization", utf8 "Basic YW5uOg=="⟩] }
    h₁.SameApart h₂ ∧
      ((g.trusting twoTokens).route 5000 h₁).2 = .reply (.error authFailed) ∧
      ((g.trusting {}).route 9000 h₂).2 = .reply (.error authFailed) ∧
      (((g.trusting twoTokens).route 5000 h₁).1.credentials.verifyToken 5500 "late").2 =
        .ok ⟨"ann", .guest⟩ := by
  intro g h₁ h₂
  have hsame : h₁.SameApart h₂ := ⟨rfl, rfl, rfl, rfl, by decide⟩
  have hfail₁ : ((g.trusting twoTokens).authenticate 5000 h₁).2 = none := by decide +kernel
  have hfail₂ : ((g.trusting {}).authenticate 9000 h₂).2 = none := by decide +kernel
  obtain ⟨r, hreply₁, hreply₂, hguarded, _, _, _, hspared, _⟩ :=
    refused_alike g twoTokens {} 5000 9000 hsame hfail₁ hfail₂
  obtain ⟨rfl, _⟩ := hguarded (by decide)
  exact ⟨hsame, hreply₁, hreply₂, hspared.valid 5500 "late" _ (by decide) rfl⟩

/-- A gateway whose one channel has ended: its session is still registered, but nobody holds it. -/
def deserted : Gateway :=
  let (sessions, id) := Channel.Sessions.create {} ⟨"ann", .guest⟩
  let sessions := (sessions.register id).modify id fun s => { s with held := false }
  { home := { sessions }, tokenText := fun n => toString n }

/-- A request for the help text drops from the registry a session that nobody holds any more, though
nobody is authenticated. And the routes of the resources are these alone: a path that only begins
like theirs leads to a page like any other, and nobody is told to authenticate. -/
theorem help_drops_unheld :
    let help : Head := { method := "GET", path := "/help" }
    let resume : Head := { method := "GET", path := "/resume" }
    (deserted.authenticate 0 help).2 = none ∧ deserted.sessions.entries = [0] ∧
      (deserted.route 0 help).1.sessions.entries = [] ∧
      (deserted.authenticate 0 resume).2 = none ∧
      ∃ r, (deserted.route 0 resume).2 = .reply r ∧ r.status = 404 ∧ r.closes = false :=
  ⟨by decide +kernel, by decide +kernel, by decide +kernel, by decide +kernel, _, rfl, rfl, rfl⟩

end Gateway

end DeviceGateway
