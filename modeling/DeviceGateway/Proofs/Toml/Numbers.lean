import DeviceGateway.Toml.Reader
import Mathlib.Algebra.Group.Nat.Defs

/-
  Reading back written numbers. The decimal digits of a number, before a line end, are no date, no
  time and no number with a point; they read as the number (`number_toString`), as far as 64 bits
  with a sign go.
-/

namespace DeviceGateway.Toml

variable {c : Char} {cs rest : List Char} {n : Nat}

/-! ## Digits -/

/-- The value of a decimal digit. -/
def digitNumber (c : Char) : Nat := c.toNat - 48

theorem digitOf_isDigit (h : c.isDigit = true) : digitOf? 10 c = some (digitNumber c) := by
  have hall : ∀ k < 58, 48 ≤ k → digitOf? 10 (Char.ofNat k) = some (k - 48) := by decide
  have hrange : 48 ≤ c.toNat ∧ c.toNat < 58 := by
    simpa [Char.isDigit, UInt32.le_iff_toNat_le, Nat.lt_succ_iff] using h
  have hread := hall c.toNat hrange.2 hrange.1
  rw [Char.ofNat_toNat] at hread
  exact hread

theorem digitChar_value (hn : n < 10) : digitNumber n.digitChar = n := by
  have hall : ∀ n < 10, digitNumber n.digitChar = n := by decide
  exact hall n hn

theorem isDigit_toDigits (n : Nat) : ∀ c ∈ Nat.toDigits 10 n, c.isDigit = true :=
  fun _ hc => Nat.isDigit_of_mem_toDigits (by decide) (by decide) hc

/-- The digits of a number write it. -/
theorem ofDigits_toDigits (n : Nat) :
    ofDigits 10 ((Nat.toDigits 10 n).map digitNumber) = n := by
  induction n using Nat.strongRecOn with
  | ind n ih =>
    by_cases hn : n < 10
    · rw [Nat.toDigits_of_lt_base hn]
      exact (Nat.zero_add _).trans (digitChar_value hn)
    · have hlow : n % 10 < 10 := Nat.mod_lt n (by decide)
      have hhigh := ih (n / 10) (by omega)
      unfold ofDigits at hhigh ⊢
      rw [Nat.toDigits_of_base_le (by decide) (by omega), List.map_append, List.foldl_append, hhigh]
      show n / 10 * 10 + digitNumber (n % 10).digitChar = n
      rw [digitChar_value hlow]
      omega

/-- The digits of a number that is not zero do not begin with zero. -/
theorem toDigits_head (hn : 0 < n) : ∃ c r, Nat.toDigits 10 n = c :: r ∧ c ≠ '0' := by
  induction n using Nat.strongRecOn with
  | ind n ih =>
    by_cases hlt : n < 10
    · have hall : ∀ n < 10, 0 < n → n.digitChar ≠ '0' := by decide
      exact ⟨n.digitChar, [], Nat.toDigits_of_lt_base hlt, hall n hlt hn⟩
    · obtain ⟨c, r, hdigits, hc⟩ := ih (n / 10) (by omega) (by omega)
      refine ⟨c, r ++ [(n % 10).digitChar], ?_, hc⟩
      rw [Nat.toDigits_of_base_le (by decide) (by omega), hdigits]
      rfl

/-! ## Reading digits -/

theorem digitsFrom_read (h : ∀ c ∈ cs, c.isDigit = true) (done : List Nat) :
    digitsFrom? 10 done (cs ++ '\n' :: rest) =
      some (done.reverse ++ cs.map digitNumber, '\n' :: rest) := by
  induction cs generalizing done with
  | nil =>
    rw [List.map_nil, List.append_nil]
    rfl
  | cons c cs ih =>
    obtain ⟨hc, hcs⟩ := List.forall_mem_cons.mp h
    have hne : c ≠ '_' := by
      rintro rfl
      exact absurd hc (by decide)
    have hrest := ih hcs (digitNumber c :: done)
    rw [List.reverse_cons, List.append_assoc] at hrest
    show digitsFrom? 10 done (c :: (cs ++ '\n' :: rest)) = _
    unfold digitsFrom?
    split
    · next heq => exact absurd (List.cons.inj heq).1 hne
    · next heq => exact absurd (List.cons.inj heq).1 hne
    · next c' r' _ _ heq =>
      obtain ⟨rfl, rfl⟩ := List.cons.inj heq
      rw [digitOf_isDigit hc]
      exact hrest
    · next heq => cases heq

/-- Is this a number as it is written: digits, with a zero in front only when it is alone? -/
def Written (cs : List Char) : Prop :=
  (∀ c ∈ cs, c.isDigit = true) ∧ (cs = ['0'] ∨ ∃ c r, cs = c :: r ∧ c ≠ '0')

theorem written_toDigits (n : Nat) : Written (Nat.toDigits 10 n) := by
  refine ⟨isDigit_toDigits n, ?_⟩
  by_cases hn : n = 0
  · rw [hn]
    exact Or.inl rfl
  · exact Or.inr (toDigits_head (Nat.pos_of_ne_zero hn))

theorem wholeDigits_read (h : Written cs) (rest : List Char) :
    wholeDigits? (cs ++ '\n' :: rest) = some (cs.map digitNumber, '\n' :: rest) := by
  obtain ⟨hdigits, rfl | ⟨c, r, rfl, hc⟩⟩ := h
  · rfl
  · obtain ⟨hdigit, hr⟩ := List.forall_mem_cons.mp hdigits
    show wholeDigits? (c :: (r ++ '\n' :: rest)) = _
    unfold wholeDigits?
    split
    · next heq => exact absurd (List.cons.inj heq).1 hc
    · unfold digits?
      dsimp only
      rw [digitOf_isDigit hdigit]
      exact digitsFrom_read hr [digitNumber c]

/-! ## What a number is not -/

theorem isSome_of_mapM {α β : Type} {f : α → Option β} {xs : List α} {ys : List β}
    (h : xs.mapM f = some ys) : ∀ x ∈ xs, (f x).isSome = true := by
  induction xs generalizing ys with
  | nil => exact nofun
  | cons x xs ih =>
    rw [List.mapM_cons] at h
    obtain ⟨y, hy, h⟩ := Option.bind_eq_some_iff.mp h
    obtain ⟨zs, hzs, _⟩ := Option.bind_eq_some_iff.mp h
    refine List.forall_mem_cons.mpr ⟨?_, ih hzs⟩
    rw [hy]
    rfl

/-- So many digits end where a digit or the line end comes next. -/
theorem fixedDigits_next (h : ∀ c ∈ cs, c.isDigit = true) (rest : List Char) (width : Nat) :
    fixedDigits? width (cs ++ '\n' :: rest) = none ∨ ∃ n c r,
      fixedDigits? width (cs ++ '\n' :: rest) = some (n, c :: r) ∧
        (c.isDigit = true ∨ c = '\n') := by
  unfold fixedDigits?
  cases hread : ((cs ++ '\n' :: rest).take width).mapM (digitOf? 10) with
  | none => exact Or.inl rfl
  | some ds =>
    have hwidth : width ≤ cs.length := by
      refine Nat.le_of_not_lt fun hlt => ?_
      have hmem : '\n' ∈ (cs ++ '\n' :: rest).take width := by
        obtain ⟨k, rfl⟩ := Nat.exists_eq_add_of_lt hlt
        rw [Nat.add_assoc, List.take_length_add_append]
        exact List.mem_append_right _ List.mem_cons_self
      exact absurd (isSome_of_mapM hread _ hmem) (by decide)
    have hdrop : (cs ++ '\n' :: rest).drop width = cs.drop width ++ '\n' :: rest :=
      List.drop_append_of_le_length hwidth
    by_cases hlength : ds.length = width
    · refine Or.inr ?_
      show ∃ n c r, (if ds.length = width then some (ofDigits 10 ds, _) else none) = _ ∧ _
      rw [if_pos hlength, hdrop]
      cases hnext : cs.drop width with
      | nil => exact ⟨_, '\n', rest, rfl, Or.inr rfl⟩
      | cons c r =>
        have hc : c ∈ cs := List.mem_of_mem_drop (hnext ▸ List.mem_cons_self)
        exact ⟨_, c, r ++ '\n' :: rest, rfl, Or.inl (h c hc)⟩
    · exact Or.inl (if_neg hlength)

theorem mark_none {c d : Char} (hd : d.isDigit = false) (hline : d ≠ '\n')
    (hc : c.isDigit = true ∨ c = '\n') (r : List Char) : mark? d (c :: r) = none := by
  unfold mark?
  refine if_neg ?_
  rintro rfl
  rcases hc with hc | hc
  · rw [hd] at hc
    cases hc
  · exact hline hc

theorem moment_absent (h : ∀ c ∈ cs, c.isDigit = true) :
    moment (cs ++ '\n' :: rest) = .absent := by
  have htime : hourMark? (cs ++ '\n' :: rest) = none := by
    unfold hourMark? pair?
    rcases fixedDigits_next h rest 2 with hnone | ⟨n, c, r, hsome, hc⟩
    · rw [hnone]
      rfl
    · rw [hsome, Option.bind_some]
      dsimp only
      split
      · exact mark_none (by decide) (by decide) hc r
      · rfl
  unfold moment
  rcases fixedDigits_next h rest 4 with hnone | ⟨n, c, r, hsome, hc⟩
  · rw [hnone, Option.bind_none, htime]
  · rw [hsome, Option.bind_some]
    dsimp only
    rw [mark_none (by decide) (by decide) hc, Option.map_none, htime]

theorem written_head (h : Written cs) : ∃ c r, cs = c :: r ∧ c.isDigit = true := by
  obtain ⟨hdigits, rfl | ⟨c, r, rfl, _⟩⟩ := h
  · exact ⟨'0', [], rfl, rfl⟩
  · exact ⟨c, r, rfl, (List.forall_mem_cons.mp hdigits).1⟩

/-- What begins with a digit has no sign. -/
theorem sign_digit (h : c.isDigit = true) (r : List Char) : sign (c :: r) = (false, c :: r) := by
  unfold sign
  split
  · next heq =>
    rw [(List.cons.inj heq).1] at h
    cases h
  · next heq =>
    rw [(List.cons.inj heq).1] at h
    cases h
  · rfl

theorem float_absent (h : Written cs) : float (cs ++ '\n' :: rest) = .absent := by
  have hwhole := wholeDigits_read h rest
  obtain ⟨c, r, rfl, hc⟩ := written_head h
  unfold float
  rw [List.cons_append, sign_digit hc]
  dsimp only
  split
  · next heq =>
    rw [(List.cons.inj heq).1] at hc
    cases hc
  · next heq =>
    rw [(List.cons.inj heq).1] at hc
    cases hc
  · rw [← List.cons_append, hwhole]
    rfl

/-- The digits of a number read as the number. -/
theorem integer_read (h : Written cs) (hn : ofDigits 10 (cs.map digitNumber) < 2 ^ 63) :
    integer? (cs ++ '\n' :: rest) =
      some ((ofDigits 10 (cs.map digitNumber) : Int), '\n' :: rest) := by
  have hwhole := wholeDigits_read h rest
  have hrange : inRange? (ofDigits 10 (cs.map digitNumber) : Int) =
      some (ofDigits 10 (cs.map digitNumber) : Int) := by
    refine if_pos ?_
    simp only [Bool.and_eq_true, decide_eq_true_eq]
    omega
  have hplain : integer? (cs ++ '\n' :: rest) =
      (wholeDigits? (sign (cs ++ '\n' :: rest)).2).bind fun p =>
        (inRange? (if (sign (cs ++ '\n' :: rest)).1 then -(ofDigits 10 p.1 : Int)
          else (ofDigits 10 p.1 : Int))).map fun n => (n, p.2) := by
    obtain ⟨_, rfl | ⟨c, r, rfl, hc⟩⟩ := h
    · rfl
    · unfold integer?
      dsimp only
      split
      · next heq => exact absurd (List.cons.inj heq).1 hc
      · next heq => exact absurd (List.cons.inj heq).1 hc
      · next heq => exact absurd (List.cons.inj heq).1 hc
      · rfl
  obtain ⟨c, r, hcs, hc⟩ := written_head h
  have hsign : sign (cs ++ '\n' :: rest) = (false, cs ++ '\n' :: rest) := by
    rw [hcs]
    exact sign_digit hc _
  rw [hplain, hsign]
  dsimp only
  rw [hwhole, Option.bind_some]
  dsimp only
  rw [if_neg (by decide), hrange]
  rfl

theorem number_toString (hn : n < 2 ^ 63) (rest : List Char) :
    number? ((toString n).toList ++ '\n' :: rest) = some (.integer n, '\n' :: rest) := by
  have htext : (toString n).toList = Nat.toDigits 10 n := Nat.toList_repr
  have hwritten := written_toDigits n
  have hvalue := ofDigits_toDigits n
  unfold number?
  rw [htext, moment_absent hwritten.1]
  dsimp only
  rw [float_absent hwritten]
  dsimp only
  rw [integer_read hwritten (by rw [hvalue]; exact hn), hvalue]
  rfl

end DeviceGateway.Toml
