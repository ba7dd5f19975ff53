import DeviceGateway.Proofs.Access.TokenTable

/-
  The life of a token. A store never counts how many tokens an account got after a given one; it
  sweeps, sorts and drops. Yet of each account its live tokens are the live ones of the latest that
  the account got (`Kept.live_eq`), whatever was issued, looked up and swept in between. So a token
  is good for its owner while its time lasts and fewer than the limit were issued after it to an
  account of the same name (`token_lifetime`).
-/

namespace DeviceGateway

/-- A store in the course of time, with all tokens that it has issued. -/
structure Ledger where
  credentials : Credentials
  now : Nat
  log : List Token := []

namespace Ledger

/-- Something that is done with a store, and the time that passes. -/
inductive Event
  | issue (owner : Principal) (text : String)
  | verifyToken (text : String)
  | verifyPassword (name password : String)
  | pass (time : Nat)

/-- The ledger after an event. A password is looked up among the accounts, which never change. -/
def step (v : Ledger) : Event → Ledger
  | .issue owner text =>
    { v with
      credentials := v.credentials.issue v.now owner text
      log := v.log ++ [{ text, owner, issued := v.now }] }
  | .verifyToken text => { v with credentials := (v.credentials.verifyToken v.now text).1 }
  | .verifyPassword _ _ => v
  | .pass time => { v with now := v.now + time }

def run (v : Ledger) (events : List Event) : Ledger := events.foldl step v

/-- The ledger of a new store. -/
def opened (accounts : List Account) (life now : Nat) : Ledger :=
  { credentials := { accounts, life }, now }

/-- Has no text been used twice, and has no account got two tokens at once? -/
structure Distinct (log : List Token) : Prop where
  texts : (log.map (·.text)).Nodup
  instants : log.Pairwise fun a b => a.owner.name = b.owner.name → a.issued ≠ b.issued

/-- What holds of the table at all times. -/
structure Kept (v : Ledger) : Prop where
  sublist : v.credentials.tokens.Sublist v.log
  live_eq : ∀ name,
    (tokensOf name v.credentials.tokens).filter (v.credentials.isLive v.now) =
      (latest (tokensOf name v.log)).filter (v.credentials.isLive v.now)
  length_le : ∀ name, (tokensOf name v.credentials.tokens).length ≤ maxTokensPerAccount
  past : ∀ t ∈ v.log, t.issued ≤ v.now
  inOrder : v.log.Pairwise fun a b => a.issued ≤ b.issued

variable {v : Ledger} {name : String}

theorem Distinct.of_prefix {log log' : List Token} (h : Distinct log') (hpre : log <+: log') :
    Distinct log :=
  ⟨h.texts.sublist (hpre.sublist.map _), h.instants.sublist hpre.sublist⟩

/-! ## Liveness -/

/-- A token issued later lives longer. -/
theorem isLive_of_issued_le {c : Credentials} {now : Nat} {a b : Token} (h : a.issued ≤ b.issued)
    (ha : c.isLive now a = true) : c.isLive now b = true := by
  unfold Credentials.isLive at ha ⊢
  have ha' := of_decide_eq_true ha
  exact decide_eq_true (by omega)

/-- What is live after some time was live before. -/
theorem isLive_of_isLive_add {c : Credentials} {now time : Nat} {t : Token}
    (h : c.isLive (now + time) t = true) : c.isLive now t = true := by
  unfold Credentials.isLive at h ⊢
  have h' := of_decide_eq_true h
  exact decide_eq_true (by omega)

theorem filter_filter_of_imp {p q : Token → Bool} (h : ∀ t, p t = true → q t = true)
    (ts : List Token) : (ts.filter q).filter p = ts.filter p := by
  rw [List.filter_filter]
  congr 1
  funext t
  cases hp : p t with
  | true => rw [h t hp]; rfl
  | false => rfl

/-! ## Events -/

theorem Kept.nodup (hv : Kept v) (hlog : Distinct v.log) :
    (v.credentials.tokens.map (·.text)).Nodup :=
  hlog.texts.sublist (hv.sublist.map _)

/-- The tokens of one account stand in the order in which they would be sorted. -/
theorem Kept.sorted (hv : Kept v) (hlog : Distinct v.log) (name : String) :
    (tokensOf name v.credentials.tokens).Pairwise fun a b => a.isOlder b = true := by
  have hsublist : (tokensOf name v.credentials.tokens).Sublist v.log :=
    List.filter_sublist.trans hv.sublist
  refine List.Pairwise.imp_of_mem ?_ ((hv.inOrder.and hlog.instants).sublist hsublist)
  intro a b ha hb h
  have hname : a.owner.name = b.owner.name :=
    (mem_tokensOf.mp ha).2.trans (mem_tokensOf.mp hb).2.symm
  have hne := h.2 hname
  have hlt : a.issued < b.issued := by omega
  unfold Token.isOlder
  rw [decide_eq_true hlt]
  rfl

/-- Time takes no token out of the table. -/
theorem Kept.pass (hv : Kept v) (time : Nat) : Kept (v.step (.pass time)) := by
  refine ⟨hv.sublist, ?_, hv.length_le, ?_, hv.inOrder⟩
  · intro name
    have himp : ∀ t, v.credentials.isLive (v.now + time) t = true →
        v.credentials.isLive v.now t = true := fun t => isLive_of_isLive_add
    show (tokensOf name v.credentials.tokens).filter (v.credentials.isLive (v.now + time)) =
      (latest (tokensOf name v.log)).filter (v.credentials.isLive (v.now + time))
    rw [← filter_filter_of_imp himp, hv.live_eq, filter_filter_of_imp himp]
  · intro t ht
    exact Nat.le_add_right_of_le (hv.past t ht)

/-- A sweep takes no live token. -/
theorem Kept.prune (hv : Kept v) : Kept { v with credentials := v.credentials.prune v.now } := by
  refine ⟨List.filter_sublist.trans hv.sublist, ?_, ?_, hv.past, hv.inOrder⟩
  · intro name
    show (tokensOf name (v.credentials.prune v.now).tokens).filter (v.credentials.isLive v.now) = _
    rw [Credentials.tokensOf_prune, filter_filter_of_imp fun _ h => h]
    exact hv.live_eq name
  · intro name
    have hkept := List.length_filter_le (v.credentials.isLive v.now)
      (tokensOf name v.credentials.tokens)
    rw [Credentials.tokensOf_prune]
    exact Nat.le_trans hkept (hv.length_le name)

theorem Kept.verifyToken (hv : Kept v) (text : String) : Kept (v.step (.verifyToken text)) := by
  show Kept { v with credentials := (v.credentials.verifyToken v.now text).1 }
  rcases Credentials.verifyToken_cases v.credentials v.now text with h | h
  · rw [h]
    exact hv
  · rw [h]
    exact hv.prune

/-- The latest tokens, when there is one more. -/
theorem latest_append (ts : List Token) (t : Token) :
    latest (ts ++ [t]) = ts.drop (ts.length + 1 - maxTokensPerAccount) ++ [t] := by
  have hpos : 0 < maxTokensPerAccount := by decide
  have hle : ts.length + 1 - maxTokensPerAccount ≤ ts.length := by omega
  unfold latest
  rw [List.length_append, List.length_singleton, List.drop_append_of_le_length hle]

/-- The new token of an account takes the place of the oldest of its latest. -/
theorem Kept.live_eq_of_issue (hv : Kept v) (hlog : Distinct v.log) (owner : Principal)
    (text : String) :
    (tokensOf owner.name (v.credentials.issue v.now owner text).tokens).filter
        (v.credentials.isLive v.now) =
      (latest (tokensOf owner.name (v.log ++ [{ text, owner, issued := v.now }]))).filter
        (v.credentials.isLive v.now) := by
  have hmono : (tokensOf owner.name v.log).Pairwise fun a b =>
      v.credentials.isLive v.now a = true → v.credentials.isLive v.now b = true :=
    (hv.inOrder.filter _).imp isLive_of_issued_le
  have hnew : tokensOf owner.name [{ text, owner, issued := v.now : Token }] =
      [{ text, owner, issued := v.now }] := by
    rw [tokensOf_cons, if_pos rfl]
    rfl
  rw [Credentials.tokensOf_issue_self (hv.nodup hlog) (hv.sorted hlog owner.name), hv.live_eq,
    drop_filter_latest hmono, tokensOf_append, hnew, latest_append, List.filter_append,
    List.filter_append, filter_filter_of_imp fun _ h => h]

theorem Kept.live_eq_of_issue_other (hv : Kept v) (hlog : Distinct v.log) {owner : Principal}
    (text : String) (hname : owner.name ≠ name) :
    (tokensOf name (v.credentials.issue v.now owner text).tokens).filter
        (v.credentials.isLive v.now) =
      (latest (tokensOf name (v.log ++ [{ text, owner, issued := v.now }]))).filter
        (v.credentials.isLive v.now) := by
  have hnew : tokensOf name [{ text, owner, issued := v.now : Token }] = [] := by
    rw [tokensOf_cons, if_neg hname]
    rfl
  rw [Credentials.tokensOf_issue_of_ne (hv.nodup hlog) hname, filter_filter_of_imp fun _ h => h,
    hv.live_eq, tokensOf_append, hnew, List.append_nil]

/-- An issue makes room for one more token of its account, and for no other. -/
theorem Kept.length_le_of_issue (hv : Kept v) (hlog : Distinct v.log) (owner : Principal)
    (text name : String) :
    (tokensOf name (v.credentials.issue v.now owner text).tokens).length ≤
      maxTokensPerAccount := by
  have hkept : ∀ name, ((tokensOf name v.credentials.tokens).filter
      (v.credentials.isLive v.now)).length ≤ maxTokensPerAccount := fun name =>
    Nat.le_trans (List.length_filter_le _ _) (hv.length_le name)
  by_cases hname : owner.name = name
  · subst hname
    have hpos : 0 < maxTokensPerAccount := by decide
    have hle := hkept owner.name
    rw [Credentials.tokensOf_issue_self (hv.nodup hlog) (hv.sorted hlog owner.name),
      List.length_append, List.length_drop, List.length_singleton]
    omega
  · rw [Credentials.tokensOf_issue_of_ne (hv.nodup hlog) hname]
    exact hkept name

theorem Kept.issue (hv : Kept v) (hlog : Distinct v.log) (owner : Principal) (text : String) :
    Kept (v.step (.issue owner text)) := by
  refine ⟨?_, ?_, hv.length_le_of_issue hlog owner text, ?_, ?_⟩
  · exact ((List.filter_sublist.trans List.filter_sublist).trans hv.sublist).append
      (List.Sublist.refl _)
  · intro name
    by_cases hname : owner.name = name
    · subst hname
      exact hv.live_eq_of_issue hlog owner text
    · exact hv.live_eq_of_issue_other hlog text hname
  · intro t ht
    rcases List.mem_append.mp ht with ht | ht
    · exact hv.past t ht
    · rw [List.mem_singleton.mp ht]
      exact Nat.le_refl _
  · refine List.pairwise_append.mpr ⟨hv.inOrder, List.pairwise_singleton _ _, ?_⟩
    intro t ht u hu
    rw [List.mem_singleton.mp hu]
    exact hv.past t ht

/-! ## Runs -/

theorem log_prefix_step (v : Ledger) (e : Event) : v.log <+: (v.step e).log := by
  cases e with
  | issue owner text => exact List.prefix_append _ _
  | _ => exact List.prefix_refl _

theorem log_prefix_run (v : Ledger) (events : List Event) : v.log <+: (v.run events).log := by
  induction events generalizing v with
  | nil => exact List.prefix_refl _
  | cons e events ih => exact (log_prefix_step v e).trans (ih (v.step e))

theorem Kept.step (hv : Kept v) (e : Event) (hlog : Distinct v.log) : Kept (v.step e) := by
  cases e with
  | issue owner text => exact hv.issue hlog owner text
  | verifyToken text => exact hv.verifyToken text
  | verifyPassword name password => exact hv
  | pass time => exact hv.pass time

theorem Kept.run {events : List Event} (hv : Kept v) (hlog : Distinct (v.run events).log) :
    Kept (v.run events) := by
  induction events generalizing v with
  | nil => exact hv
  | cons e events ih =>
    have hbefore : Distinct v.log := hlog.of_prefix (log_prefix_run v (e :: events))
    exact ih (hv.step e hbefore) hlog

/-- The token life is that of the beginning. -/
theorem life_run (v : Ledger) (events : List Event) :
    (v.run events).credentials.life = v.credentials.life := by
  induction events generalizing v with
  | nil => rfl
  | cons e events ih =>
    have hstep : (v.step e).credentials.life = v.credentials.life := by
      cases e with
      | verifyToken text =>
        show (v.credentials.verifyToken v.now text).1.life = v.credentials.life
        rcases Credentials.verifyToken_cases v.credentials v.now text with h | h
        · rw [h]
        · rw [h]
          rfl
      | _ => rfl
    exact (ih (v.step e)).trans hstep

theorem kept_opened (accounts : List Account) (life now : Nat) :
    Kept (opened accounts life now) := by
  refine ⟨List.Sublist.refl _, fun _ => rfl, fun _ => Nat.zero_le _, ?_, List.Pairwise.nil⟩
  intro t ht
  cases ht

/-- A token of the table that is alive is one of the latest that its account got, and every live
one of these is in the table. -/
theorem Kept.mem_tokens (hv : Kept v) {t : Token} (hlive : v.credentials.isLive v.now t = true) :
    t ∈ v.credentials.tokens ↔ t ∈ latest (tokensOf t.owner.name v.log) := by
  have hiff := congrArg (t ∈ ·) (hv.live_eq t.owner.name)
  simp only [List.mem_filter, mem_tokensOf, hlive, and_true, eq_iff_iff] at hiff
  exact hiff

/-- A token is good for a principal exactly when it was issued to the principal, its time is not
over, and fewer than the limit were issued after it to principals of the same name. Sweeps take no
live token, an issue takes no live token of another account, and the table never holds more than
the limit for one name. -/
theorem token_lifetime (accounts : List Account) (life now : Nat) (events : List Event)
    (hlog : Distinct ((opened accounts life now).run events).log) :
    let v := (opened accounts life now).run events
    (∀ text p, (v.credentials.verifyToken v.now text).2 = .ok p ↔
      ∃ before t later, v.log = before ++ t :: later ∧ t.text = text ∧ t.owner = p ∧
        v.now - t.issued < life ∧ (tokensOf p.name later).length < maxTokensPerAccount) ∧
    (∀ t ∈ v.credentials.tokens, v.credentials.isLive v.now t = true →
      t ∈ (v.credentials.prune v.now).tokens ∧
      (∀ text, t ∈ (v.credentials.verifyToken v.now text).1.tokens) ∧
      (∀ owner text, owner.name ≠ t.owner.name →
        t ∈ (v.credentials.issue v.now owner text).tokens)) ∧
    (∀ name, (tokensOf name v.credentials.tokens).length ≤ maxTokensPerAccount) := by
  intro v
  have hv : Kept v := (kept_opened accounts life now).run hlog
  have hlife : v.credentials.life = life := life_run (opened accounts life now) events
  have hnodup := hv.nodup hlog
  refine ⟨?_, ?_, hv.length_le⟩
  · intro text p
    rw [Credentials.verifyToken_eq_ok hnodup]
    constructor
    · rintro ⟨t, ht, rfl, rfl, hlive⟩
      obtain ⟨before, later, heq, _, hlen⟩ :=
        mem_latest_tokensOf.mp ((hv.mem_tokens hlive).mp ht)
      refine ⟨before, t, later, heq, rfl, rfl, ?_, hlen⟩
      exact hlife ▸ of_decide_eq_true hlive
    · rintro ⟨before, t, later, heq, rfl, rfl, htime, hlen⟩
      have hlive : v.credentials.isLive v.now t = true :=
        decide_eq_true (hlife.symm ▸ htime)
      refine ⟨t, (hv.mem_tokens hlive).mpr ?_, rfl, rfl, hlive⟩
      exact mem_latest_tokensOf.mpr ⟨before, later, heq, rfl, hlen⟩
  · intro t ht hlive
    have hswept : t ∈ (v.credentials.prune v.now).tokens := List.mem_filter.mpr ⟨ht, hlive⟩
    refine ⟨hswept, ?_, ?_⟩
    · intro text
      rcases Credentials.verifyToken_cases v.credentials v.now text with h | h
      · rw [h]
        exact ht
      · rw [h]
        exact hswept
    · intro owner text hname
      have hmem : t ∈ tokensOf t.owner.name (v.credentials.issue v.now owner text).tokens := by
        rw [Credentials.tokensOf_issue_of_ne hnodup hname]
        exact List.mem_filter.mpr ⟨mem_tokensOf.mpr ⟨ht, rfl⟩, hlive⟩
      exact (mem_tokensOf.mp hmem).1

/-- Of two tokens of one account, the first is over when the second is looked up. -/
def twoTokens : List Event := [
  .issue ⟨"operator", .control⟩ "first", .pass 6, .issue ⟨"operator", .control⟩ "second",
  .issue ⟨"guest", .guest⟩ "third", .pass 6, .verifyToken "first"]

theorem twoTokens_distinct : Distinct ((opened [] 10 0).run twoTokens).log :=
  ⟨by decide, by decide⟩

theorem twoTokens_lifetime :
    let v := (opened [] 10 0).run twoTokens
    (v.credentials.verifyToken v.now "second").2 = .ok ⟨"operator", .control⟩ := by
  refine ((token_lifetime [] 10 0 twoTokens twoTokens_distinct).1 _ _).mpr ?_
  exact ⟨[⟨"first", ⟨"operator", .control⟩, 0⟩], ⟨"second", ⟨"operator", .control⟩, 6⟩,
    [⟨"third", ⟨"guest", .guest⟩, 6⟩], rfl, rfl, rfl, by decide, by decide⟩

end Ledger

end DeviceGateway
