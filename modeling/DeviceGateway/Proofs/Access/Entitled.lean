import DeviceGateway.Access.Authorization
import DeviceGateway.Proofs.Access.TokenTable

/-
  Whom a store takes somebody for. A password gives the level of the last account of its name, and a
  token gives its owner; so if the owners of all tokens have the level of their account, everybody
  whom a header stands for has it too (`Honest.authorize`), and a token for such a principal keeps
  the store so (`Honest.issue`).
-/

namespace DeviceGateway

/-- Has the principal the name of an account, and the level of the last account of that name? -/
def Principal.Entitled (accounts : List Account) (p : Principal) : Prop :=
  ∃ before a after, accounts = before ++ a :: after ∧ a.name = p.name ∧ a.level = p.level ∧
    ∀ b ∈ after, b.name ≠ p.name

/-- The account that counts for a name is the last one of that name. -/
theorem Account.find?_eq_some {accounts : List Account} {name : String} {a : Account}
    (h : Account.find? accounts name = some a) :
    ∃ before after, accounts = before ++ a :: after ∧ a.name = name ∧
      ∀ b ∈ after, b.name ≠ name := by
  unfold Account.find? at h
  rw [List.getLast?_eq_head?_reverse, ← List.filter_reverse, List.head?_filter,
    List.find?_eq_some_iff_append] at h
  obtain ⟨hname, later, earlier, hsplit, hlater⟩ := h
  refine ⟨earlier.reverse, later.reverse, ?_, by simpa using hname, ?_⟩
  · rw [← List.reverse_inj, hsplit]
    simp
  · intro b hb
    simpa using hlater b (List.mem_reverse.mp hb)

namespace Credentials

/-- Has the store these accounts, and tokens only of principals who have their account's level? -/
structure Honest (accounts : List Account) (c : Credentials) : Prop where
  accounts_eq : c.accounts = accounts
  owners : ∀ t ∈ c.tokens, t.owner.Entitled accounts

variable {accounts : List Account} {c : Credentials} {now : Nat} {p : Principal}

theorem Honest.prune (hc : c.Honest accounts) (now : Nat) : (c.prune now).Honest accounts :=
  ⟨hc.accounts_eq, fun t ht => hc.owners t (List.mem_filter.mp ht).1⟩

/-- A token is issued to one more principal who has the account's level; the other tokens are of
those that there were. -/
theorem Honest.issue (hc : c.Honest accounts) (hp : p.Entitled accounts) (now : Nat)
    (text : String) : (c.issue now p text).Honest accounts := by
  refine ⟨hc.accounts_eq, ?_⟩
  intro t ht
  rcases List.mem_append.mp ht with hkept | hnew
  · exact (hc.prune now).owners t (List.mem_filter.mp hkept).1
  · rw [List.mem_singleton.mp hnew]
    exact hp

theorem Honest.verifyPassword (hc : c.Honest accounts) {name password : String}
    (h : c.verifyPassword name password = .ok p) : p.Entitled accounts := by
  unfold Credentials.verifyPassword at h
  rw [hc.accounts_eq] at h
  split at h
  · next a hfind =>
    split at h
    · cases h
      obtain ⟨before, after, hsplit, hname, hlast⟩ := Account.find?_eq_some hfind
      exact ⟨before, a, after, hsplit, hname, rfl, hlast⟩
    · cases h
  · cases h

theorem Honest.verifyToken (hc : c.Honest accounts) (now : Nat) (text : String) :
    (c.verifyToken now text).1.Honest accounts ∧
      ∀ p, (c.verifyToken now text).2 = .ok p → p.Entitled accounts := by
  constructor
  · rcases verifyToken_cases c now text with h | h
    · rw [h]
      exact hc
    · rw [h]
      exact hc.prune now
  · intro p h
    unfold Credentials.verifyToken at h
    split at h
    · cases h
    · next t hfind =>
      split at h
      · cases h
        exact hc.owners t (List.mem_of_find?_eq_some hfind)
      · cases h

/-- Whatever a header claims, it stands for nobody but principals who have their account's
level. -/
theorem Honest.authorize (hc : c.Honest accounts) (now : Nat) (header : Option String) :
    (c.authorize now header).1.Honest accounts ∧
      ∀ p, (c.authorize now header).2 = .ok p → p.Entitled accounts := by
  unfold Credentials.authorize
  split
  · exact ⟨hc, fun p h => nomatch h⟩
  · exact hc.verifyToken now _
  · exact ⟨hc, fun p h => hc.verifyPassword h⟩

end Credentials

end DeviceGateway
