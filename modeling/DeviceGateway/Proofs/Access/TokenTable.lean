import DeviceGateway.Access.Credentials

/-
  What one operation does to the tokens of each account. Sweeps keep exactly the live tokens
  (`tokensOf_prune`). An issue keeps of its own account the latest fifteen live tokens and adds its
  token (`tokensOf_issue_self`), and of any other account all live tokens (`tokensOf_issue_of_ne`):
  the sort behind the eviction moves nothing, since tokens stand in the order of their issue.
-/

namespace DeviceGateway

/-- The tokens of an account. -/
def tokensOf (name : String) (ts : List Token) : List Token := ts.filter (·.owner.name = name)

/-- The latest tokens, as many as one account may hold. -/
def latest (ts : List Token) : List Token := ts.drop (ts.length - maxTokensPerAccount)

variable {ts : List Token} {t : Token} {name : String}

/-! ## The tokens of one account -/

theorem tokensOf_append (name : String) (ts us : List Token) :
    tokensOf name (ts ++ us) = tokensOf name ts ++ tokensOf name us :=
  List.filter_append ts us

theorem tokensOf_filter (name : String) (p : Token → Bool) (ts : List Token) :
    tokensOf name (ts.filter p) = (tokensOf name ts).filter p := by
  unfold tokensOf
  rw [List.filter_filter, List.filter_filter]
  congr 1
  funext t
  exact Bool.and_comm _ _

theorem tokensOf_cons (name : String) (t : Token) (ts : List Token) :
    tokensOf name (t :: ts) =
      if t.owner.name = name then t :: tokensOf name ts else tokensOf name ts := by
  unfold tokensOf
  rw [List.filter_cons]
  simp only [decide_eq_true_iff]

theorem mem_tokensOf : t ∈ tokensOf name ts ↔ t ∈ ts ∧ t.owner.name = name := by
  unfold tokensOf
  rw [List.mem_filter, decide_eq_true_iff]

/-! ## The latest tokens -/

theorem latest_cons (t : Token) (ts : List Token) :
    latest (t :: ts) = if ts.length < maxTokensPerAccount then t :: ts else latest ts := by
  unfold latest
  rw [List.length_cons]
  by_cases hlen : ts.length < maxTokensPerAccount
  · have hzero : ts.length + 1 - maxTokensPerAccount = 0 := by omega
    rw [if_pos hlen, hzero, List.drop_zero]
  · have hsucc : ts.length + 1 - maxTokensPerAccount = ts.length - maxTokensPerAccount + 1 := by
      omega
    rw [if_neg hlen, hsucc, List.drop_succ_cons]

theorem latest_of_length_le (hlen : ts.length ≤ maxTokensPerAccount) : latest ts = ts := by
  have hzero : ts.length - maxTokensPerAccount = 0 := by omega
  unfold latest
  rw [hzero, List.drop_zero]

theorem mem_latest_cons (u : Token) (h : t ∈ latest ts) : t ∈ latest (u :: ts) := by
  rw [latest_cons]
  split
  · exact List.mem_cons_of_mem u (List.mem_of_mem_drop h)
  · exact h

/-- A token is among the latest of its account if fewer than the limit were issued to the account
after it. -/
theorem mem_latest_tokensOf : t ∈ latest (tokensOf name ts) ↔
    ∃ before later, ts = before ++ t :: later ∧ t.owner.name = name ∧
      (tokensOf name later).length < maxTokensPerAccount := by
  induction ts with
  | nil =>
    constructor
    · intro h
      cases h
    · rintro ⟨before, later, h, _⟩
      cases before <;> cases h
  | cons u us ih =>
    have hlater : t ∈ latest (tokensOf name us) → ∃ before later,
        u :: us = before ++ t :: later ∧ t.owner.name = name ∧
          (tokensOf name later).length < maxTokensPerAccount := by
      intro h
      obtain ⟨before, later, heq, hrest⟩ := ih.mp h
      exact ⟨u :: before, later, congrArg (u :: ·) heq, hrest⟩
    rw [tokensOf_cons]
    constructor
    · intro h
      by_cases hu : u.owner.name = name
      · rw [if_pos hu, latest_cons] at h
        by_cases hlen : (tokensOf name us).length < maxTokensPerAccount
        · rw [if_pos hlen] at h
          rcases List.mem_cons.mp h with rfl | h
          · exact ⟨[], us, rfl, hu, hlen⟩
          · rw [← latest_of_length_le (Nat.le_of_lt hlen)] at h
            exact hlater h
        · rw [if_neg hlen] at h
          exact hlater h
      · rw [if_neg hu] at h
        exact hlater h
    · rintro ⟨before, later, heq, hname, hlen⟩
      cases before with
      | nil =>
        cases heq
        rw [if_pos hname, latest_cons, if_pos hlen]
        exact List.mem_cons_self
      | cons u' before =>
        cases heq
        have hmem := ih.mpr ⟨before, later, rfl, hname, hlen⟩
        split
        · exact mem_latest_cons u hmem
        · exact hmem

/-- Of the latest tokens that are of one kind, all but as many as go over the limit with one more
are the later of the latest, where a kind that a token is of is that of all later ones. -/
theorem drop_filter_latest {p : Token → Bool}
    (hmono : ts.Pairwise fun a b => p a = true → p b = true) :
    ((latest ts).filter p).drop (((latest ts).filter p).length + 1 - maxTokensPerAccount) =
      (ts.drop (ts.length + 1 - maxTokensPerAccount)).filter p := by
  by_cases hlen : ts.length < maxTokensPerAccount
  · have hkept : (ts.filter p).length ≤ ts.length := List.length_filter_le p ts
    have hzero : ts.length + 1 - maxTokensPerAccount = 0 := by omega
    have hzero' : (ts.filter p).length + 1 - maxTokensPerAccount = 0 := by omega
    rw [latest_of_length_le (Nat.le_of_lt hlen), hzero, hzero', List.drop_zero, List.drop_zero]
  · have hpos : 0 < maxTokensPerAccount := by decide
    have hlt : ts.length - maxTokensPerAccount < ts.length := by omega
    have hsucc : ts.length + 1 - maxTokensPerAccount = ts.length - maxTokensPerAccount + 1 := by
      omega
    have hcons : latest ts = ts[ts.length - maxTokensPerAccount] ::
        ts.drop (ts.length + 1 - maxTokensPerAccount) := by
      unfold latest
      rw [List.drop_eq_getElem_cons hlt, hsucc]
    have hrest : (ts.drop (ts.length + 1 - maxTokensPerAccount)).length + 1 =
        maxTokensPerAccount := by
      rw [List.length_drop]
      omega
    have hlatest : (latest ts).Pairwise fun a b => p a = true → p b = true :=
      hmono.sublist (List.drop_sublist _ ts)
    rw [hcons] at hlatest ⊢
    have hlater := List.pairwise_cons.mp hlatest
    clear hlatest hcons
    generalize ts.drop (ts.length + 1 - maxTokensPerAccount) = rest at hrest hlater ⊢
    generalize ts[ts.length - maxTokensPerAccount] = first at hlater
    cases hfirst : p first with
    | true =>
      have hall : rest.filter p = rest :=
        List.filter_eq_self.mpr fun t ht => hlater.1 t ht hfirst
      rw [List.filter_cons_of_pos hfirst, hall, List.length_cons, hrest]
      have hone : maxTokensPerAccount + 1 - maxTokensPerAccount = 1 := by omega
      rw [hone]
      rfl
    | false =>
      have hkept : (rest.filter p).length ≤ rest.length := List.length_filter_le p rest
      have hzero : (rest.filter p).length + 1 - maxTokensPerAccount = 0 := by omega
      rw [List.filter_cons_of_neg (by rw [hfirst]; decide), hzero, List.drop_zero]

/-- What remains when the first of some tokens with different texts go. -/
theorem filter_of_take (k : Nat) (hnodup : (ts.map (·.text)).Nodup) :
    (ts.filter fun t => !((ts.take k).map (·.text)).contains t.text) = ts.drop k := by
  have hsplit : ts.map (·.text) = (ts.take k).map (·.text) ++ (ts.drop k).map (·.text) := by
    rw [← List.map_append, List.take_append_drop]
  rw [hsplit, List.nodup_append] at hnodup
  conv => lhs; arg 2; rw [← List.take_append_drop k ts]
  rw [List.filter_append]
  have hfront : ((ts.take k).filter fun t => !((ts.take k).map (·.text)).contains t.text) = [] := by
    refine List.filter_eq_nil_iff.mpr fun t ht => ?_
    have hmem : t.text ∈ (ts.take k).map (·.text) := List.mem_map_of_mem ht
    simp only [List.contains_iff_mem.mpr hmem, Bool.not_true]
    decide
  have hback : ((ts.drop k).filter fun t => !((ts.take k).map (·.text)).contains t.text) =
      ts.drop k := by
    refine List.filter_eq_self.mpr fun t ht => ?_
    have hnot : t.text ∉ (ts.take k).map (·.text) :=
      fun hmem => hnodup.2.2 t.text hmem t.text (List.mem_map_of_mem ht) rfl
    simpa using hnot
  rw [hfront, hback, List.nil_append]

/-- Different tokens have different texts. -/
theorem eq_of_text_eq {t u : Token} (hnodup : (ts.map (·.text)).Nodup) (ht : t ∈ ts) (hu : u ∈ ts)
    (heq : t.text = u.text) : t = u := by
  induction ts with
  | nil => cases ht
  | cons v vs ih =>
    obtain ⟨hhead, htail⟩ := List.nodup_cons.mp hnodup
    have hnew : ∀ w ∈ vs, w.text ≠ v.text := by
      intro w hw h
      exact hhead (List.mem_map.mpr ⟨w, hw, h⟩)
    rcases List.mem_cons.mp ht with rfl | ht' <;> rcases List.mem_cons.mp hu with rfl | hu'
    · rfl
    · exact absurd heq.symm (hnew u hu')
    · exact absurd heq (hnew t ht')
    · exact ih htail ht' hu'

/-! ## One operation -/

namespace Credentials

variable {c : Credentials} {now : Nat} {owner : Principal} {text : String}

theorem tokensOf_prune (c : Credentials) (now : Nat) (name : String) :
    tokensOf name (c.prune now).tokens = (tokensOf name c.tokens).filter (c.isLive now) :=
  tokensOf_filter name _ c.tokens

/-- Where tokens stand in the order of their issue, the first of them go. -/
theorem surplus_eq (hsorted : (tokensOf name c.tokens).Pairwise fun a b => a.isOlder b = true) :
    c.surplus name = ((tokensOf name c.tokens).take
      ((tokensOf name c.tokens).length + 1 - maxTokensPerAccount)).map (·.text) := by
  show (((tokensOf name c.tokens).mergeSort Token.isOlder).take
    ((tokensOf name c.tokens).length + 1 - maxTokensPerAccount)).map _ = _
  rw [List.mergeSort_of_pairwise hsorted]

theorem mem_surplus (h : text ∈ c.surplus name) : ∃ u ∈ tokensOf name c.tokens, u.text = text := by
  obtain ⟨u, hu, htext⟩ := List.mem_map.mp h
  exact ⟨u, List.mem_mergeSort.mp (List.mem_of_mem_take hu), htext⟩

/-- An issue drops the first of its account's live tokens, so that there is room for one more. -/
theorem tokensOf_issue_self (hnodup : (c.tokens.map (·.text)).Nodup)
    (hsorted : (tokensOf owner.name c.tokens).Pairwise fun a b => a.isOlder b = true) :
    tokensOf owner.name (c.issue now owner text).tokens =
      ((tokensOf owner.name c.tokens).filter (c.isLive now)).drop
        (((tokensOf owner.name c.tokens).filter (c.isLive now)).length + 1 - maxTokensPerAccount) ++
      [{ text, owner, issued := now }] := by
  have hlive : (tokensOf owner.name (c.prune now).tokens).Pairwise
      fun a b => a.isOlder b = true := by
    rw [tokensOf_prune]
    exact hsorted.filter _
  have hdiff : ((tokensOf owner.name (c.prune now).tokens).map (·.text)).Nodup := by
    refine hnodup.sublist (List.Sublist.map _ ?_)
    exact List.filter_sublist.trans List.filter_sublist
  have hself : tokensOf owner.name [{ text, owner, issued := now : Token }] =
      [{ text, owner, issued := now }] := by
    rw [tokensOf_cons, if_pos rfl]
    rfl
  unfold issue
  dsimp only
  rw [tokensOf_append, tokensOf_filter, hself, surplus_eq hlive, filter_of_take _ hdiff,
    tokensOf_prune]

/-- Of any other account, an issue drops what is no longer live. -/
theorem tokensOf_issue_of_ne (hnodup : (c.tokens.map (·.text)).Nodup) (hname : owner.name ≠ name) :
    tokensOf name (c.issue now owner text).tokens =
      (tokensOf name c.tokens).filter (c.isLive now) := by
  have hother : tokensOf name [{ text, owner, issued := now : Token }] = [] := by
    rw [tokensOf_cons, if_neg hname]
    rfl
  unfold issue
  dsimp only
  rw [tokensOf_append, tokensOf_filter, hother, List.append_nil, tokensOf_prune]
  refine List.filter_eq_self.mpr fun t ht => ?_
  obtain ⟨hmem, hlive⟩ := List.mem_filter.mp ht
  obtain ⟨htable, htname⟩ := mem_tokensOf.mp hmem
  have hnot : t.text ∉ (c.prune now).surplus owner.name := by
    intro h
    obtain ⟨u, hu, heq⟩ := mem_surplus h
    obtain ⟨hu, huname⟩ := mem_tokensOf.mp hu
    have hsame := eq_of_text_eq hnodup htable (List.mem_filter.mp hu).1 heq.symm
    exact hname (huname.symm.trans (hsame ▸ htname))
  simpa using hnot

/-- A lookup finds the owner of a live token that is in the table, and nobody else. -/
theorem verifyToken_eq_ok {p : Principal} (hnodup : (c.tokens.map (·.text)).Nodup) :
    (c.verifyToken now text).2 = .ok p ↔
      ∃ t ∈ c.tokens, t.text = text ∧ t.owner = p ∧ c.isLive now t = true := by
  unfold verifyToken
  cases hfind : c.tokens.find? (·.text = text) with
  | none =>
    constructor
    · intro h
      cases h
    · rintro ⟨t, ht, htext, _⟩
      exact absurd htext (by simpa using List.find?_eq_none.mp hfind t ht)
  | some u =>
    have hu : u ∈ c.tokens := List.mem_of_find?_eq_some hfind
    have hutext : u.text = text := by simpa using List.find?_some hfind
    have honly : ∀ t ∈ c.tokens, t.text = text → t = u :=
      fun t ht htext => eq_of_text_eq hnodup ht hu (htext.trans hutext.symm)
    cases hlive : c.isLive now u with
    | true =>
      dsimp only
      rw [if_pos hlive]
      constructor
      · intro h
        cases h
        exact ⟨u, hu, hutext, rfl, hlive⟩
      · rintro ⟨t, ht, htext, rfl, _⟩
        rw [honly t ht htext]
    | false =>
      dsimp only
      rw [if_neg (by rw [hlive]; decide)]
      constructor
      · intro h
        cases h
      · rintro ⟨t, ht, htext, _, htlive⟩
        rw [honly t ht htext, hlive] at htlive
        cases htlive

/-- A lookup leaves the store as it is, or sweeps it. -/
theorem verifyToken_cases (c : Credentials) (now : Nat) (text : String) :
    (c.verifyToken now text).1 = c ∨ (c.verifyToken now text).1 = c.prune now := by
  unfold verifyToken
  split
  · exact Or.inl rfl
  · split
    · exact Or.inl rfl
    · exact Or.inr rfl

end Credentials

end DeviceGateway
