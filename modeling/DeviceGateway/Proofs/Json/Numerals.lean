import DeviceGateway.Proofs.Json.Grammar
import DeviceGateway.Proofs.Outcome
import Mathlib.Data.List.TakeWhile

/-
  Numbers are read as the grammar has them. The reader goes through a number once and keeps its
  digits only as far as they count, so each of its parts is related to the digits of that part by
  itself: what a part is read as depends on nothing behind the digits but that no more come
  (`number_numeral`). Whatever is read has those parts (`exists_numeral`).
-/

namespace DeviceGateway.Json

variable {bs ds t rest : Bytes} {n count : Nat} {k : Int} {positive up : Bool}

/-! ## Digits -/

/-- The number that decimal digits write behind the digits of another one. -/
def decimalFrom (n : Nat) (ds : Bytes) : Nat := ds.foldl (fun n b => n * 10 + digitValue b) n

theorem le_decimalFrom (n : Nat) (ds : Bytes) : n ≤ decimalFrom n ds := by
  induction ds generalizing n with
  | nil => exact Nat.le_refl n
  | cons b ds ih =>
    have hstep : n ≤ n * 10 + digitValue b := by omega
    exact Nat.le_trans hstep (ih _)

/-- Digits are taken up to the first octet that is none. -/
theorem takeWhile_digits (hds : ∀ b ∈ ds, isDigitOctet b = true) (ht : digitNext t = false) :
    (ds ++ t).takeWhile isDigitOctet = ds ∧ (ds ++ t).dropWhile isDigitOctet = t := by
  rw [List.takeWhile_append_of_pos hds, List.dropWhile_append_of_pos hds]
  cases t with
  | nil => exact ⟨List.append_nil ds, rfl⟩
  | cons b r =>
    have hb : ¬ isDigitOctet b = true := Bool.eq_false_iff.mp ht
    rw [List.takeWhile_cons_of_neg hb, List.dropWhile_cons_of_neg hb]
    exact ⟨List.append_nil ds, rfl⟩

/-- Where a digit comes next, digits come up to something else. -/
theorem exists_digits (h : digitNext bs = true) :
    ∃ ds t, bs = ds ++ t ∧ IsDigits ds ∧ digitNext t = false := by
  refine ⟨bs.takeWhile isDigitOctet, bs.dropWhile isDigitOctet,
    List.takeWhile_append_dropWhile.symm, ⟨?_, fun b hb => List.mem_takeWhile_imp hb⟩, ?_⟩
  · cases bs with
    | nil => cases h
    | cons b r =>
      have hb : isDigitOctet b = true := h
      rw [List.takeWhile_cons_of_pos hb]
      exact List.cons_ne_nil _ _
  · have hhead := List.head?_dropWhile_not isDigitOctet bs
    cases hdrop : bs.dropWhile isDigitOctet with
    | nil => rfl
    | cons b r =>
      rw [hdrop] at hhead
      exact hhead

theorem IsDigits.digitNext (h : IsDigits ds) (t : Bytes) : digitNext (ds ++ t) = true := by
  cases ds with
  | nil => exact absurd rfl h.1
  | cons b ds => exact h.2 b List.mem_cons_self

/-- Digits are added as if nothing came behind them. -/
theorem addDigits_append (hds : ∀ b ∈ ds, isDigitOctet b = true) (ht : digitNext t = false)
    (n count : Nat) : addDigits n count (ds ++ t) =
      ((addDigits n count ds).1, (addDigits n count ds).2.1, (addDigits n count ds).2.2 ++ t) := by
  induction ds generalizing n count with
  | nil =>
    cases t with
    | nil => rfl
    | cons b r =>
      have hb : isDigitOctet b = false := ht
      rw [List.nil_append]
      conv => lhs; unfold addDigits
      rw [hb, Bool.false_and]
      rfl
  | cons b ds ih =>
    obtain ⟨hb, hds⟩ := List.forall_mem_cons.mp hds
    rw [List.cons_append]
    unfold addDigits
    rw [hb, Bool.true_and]
    by_cases hfits : n * 10 + digitValue b < 0x10000000000000000
    · rw [if_pos (decide_eq_true hfits), if_pos (decide_eq_true hfits)]
      exact ih hds _ _
    · rw [if_neg (by simpa using hfits), if_neg (by simpa using hfits)]
      rfl

/-- How many digits were counted before makes no difference to the number nor to what is left. -/
theorem addDigits_count (n count : Nat) (ds : Bytes) :
    (addDigits n count ds).1 = (addDigits n 0 ds).1 ∧
      (addDigits n count ds).2.2 = (addDigits n 0 ds).2.2 := by
  induction ds generalizing n count with
  | nil => exact ⟨rfl, rfl⟩
  | cons b ds ih =>
    unfold addDigits
    split
    · obtain ⟨hn, hleft⟩ := ih (n * 10 + digitValue b) (count + 1)
      obtain ⟨hn', hleft'⟩ := ih (n * 10 + digitValue b) (0 + 1)
      exact ⟨hn.trans hn'.symm, hleft.trans hleft'.symm⟩
    · exact ⟨rfl, rfl⟩

/-- Digits are counted or left. -/
theorem addDigits_length (n count : Nat) (ds : Bytes) :
    (addDigits n count ds).2.1 + (addDigits n count ds).2.2.length = count + ds.length := by
  induction ds generalizing n count with
  | nil => rfl
  | cons b ds ih =>
    unfold addDigits
    split
    · rw [ih, List.length_cons]
      omega
    · rfl

/-- What is left of digits is digits. -/
theorem left_digits (hds : ∀ b ∈ ds, isDigitOctet b = true) (n count : Nat) :
    ∀ b ∈ (addDigits n count ds).2.2, isDigitOctet b = true := by
  induction ds generalizing n count with
  | nil => exact hds
  | cons b ds ih =>
    unfold addDigits
    split
    · exact ih (List.forall_mem_cons.mp hds).2 _ _
    · exact hds

/-- Digits of a number below `2^64` all count. -/
theorem addDigits_whole (hds : ∀ b ∈ ds, isDigitOctet b = true)
    (hn : decimalFrom n ds < 0x10000000000000000) (count : Nat) :
    addDigits n count ds = (decimalFrom n ds, count + ds.length, []) := by
  induction ds generalizing n count with
  | nil => rfl
  | cons b ds ih =>
    obtain ⟨hb, hds⟩ := List.forall_mem_cons.mp hds
    have hfits : n * 10 + digitValue b < 0x10000000000000000 :=
      Nat.lt_of_le_of_lt (le_decimalFrom _ ds) hn
    unfold addDigits
    rw [hb, Bool.true_and, if_pos (decide_eq_true hfits), ih hds hn, List.length_cons,
      Nat.add_right_comm, Nat.add_assoc]
    rfl

/-- Digits of a greater number do not all count. -/
theorem left_ne_nil (hn : n < 0x10000000000000000)
    (h : 0x10000000000000000 ≤ decimalFrom n ds) (count : Nat) :
    (addDigits n count ds).2.2 ≠ [] := by
  induction ds generalizing n count with
  | nil => exact absurd hn (Nat.not_lt.mpr h)
  | cons b ds ih =>
    unfold addDigits
    split
    · next hfits =>
      simp only [Bool.and_eq_true, decide_eq_true_eq] at hfits
      exact ih hfits.2 h _
    · exact List.cons_ne_nil _ _

/-- The digits of an exponent are read up to the first octet that is none, or up to where they are
too many. -/
theorem exponentDigits_append (hds : ∀ b ∈ ds, isDigitOctet b = true) (ht : digitNext t = false)
    (hn : n < 0x80000000) : ∃ r, exponentDigits n (ds ++ t) =
      (if decimalFrom n ds < 0x80000000 then some (decimalFrom n ds) else none, r) ∧
      r.dropWhile isDigitOctet = t ∧ (decimalFrom n ds < 0x80000000 → r = t) := by
  induction ds generalizing n with
  | nil =>
    have hall := (takeWhile_digits (List.forall_mem_nil (isDigitOctet · = true)) ht).2
    have hnone : decimalFrom n [] < 0x80000000 := hn
    refine ⟨t, ?_, hall, fun _ => rfl⟩
    rw [if_pos hnone, List.nil_append]
    cases t with
    | nil => rfl
    | cons b r =>
      have hb : ¬ isDigitOctet b = true := Bool.eq_false_iff.mp ht
      unfold exponentDigits
      rw [if_neg hb]
      rfl
  | cons b ds ih =>
    obtain ⟨hb, hds⟩ := List.forall_mem_cons.mp hds
    rw [List.cons_append]
    unfold exponentDigits
    rw [if_pos hb]
    by_cases hfits : n * 10 + digitValue b < 0x80000000
    · rw [if_pos hfits]
      exact ih hds hfits
    · have hlarge : ¬ decimalFrom n (b :: ds) < 0x80000000 := fun hlt =>
        hfits (Nat.lt_of_le_of_lt (le_decimalFrom _ ds) hlt)
      rw [if_neg hfits, if_neg hlarge]
      exact ⟨ds ++ t, rfl, (takeWhile_digits hds ht).2, fun hlt => absurd hlt hlarge⟩

/-! ## Parts -/

theorem floatOf_toOption (positive : Bool) (n : Nat) (k : Int) (rest : Bytes) :
    (floatOf positive n k rest).toOption =
      (Numeral.float? positive n k).map fun v => (v, rest) := by
  unfold Numeral.float? floatOf
  dsimp only
  split
  · rfl
  split
  · split
    · rfl
    · split <;> rfl
  · split
    · rfl
    · split <;> rfl

theorem digitValue_lt {b : UInt8} (h : isDigitOctet b = true) : digitValue b < 10 := by
  unfold isDigitOctet at h
  simp only [Bool.and_eq_true, decide_eq_true_eq, UInt8.le_iff_toNat_le] at h
  unfold digitValue
  have hnine : (0x39 : UInt8).toNat = 57 := rfl
  omega

/-- The sign of an exponent only says which way it goes. -/
theorem exponent_sign {b : UInt8} {r : Bytes} (hsign : ExponentSign bs up (b :: r))
    (hb : isDigitOctet b = true) : exponent positive n k bs =
      match exponentDigits (digitValue b) r with
      | (some e, s) => floatOf positive n (if up then k + e else k - e) s
      | (none, s) =>
        if n ≠ 0 && up then stopAt .numberOutOfRange s
        else floatOf positive 0 0 (s.dropWhile isDigitOctet) := by
  unfold exponent
  cases hsign with
  | none =>
    have hplus : b ≠ 0x2B := by
      rintro rfl
      cases hb
    have hminus : b ≠ 0x2D := by
      rintro rfl
      cases hb
    dsimp only
    rw [if_neg hplus, if_neg hminus]
    dsimp only
    exact if_pos hb
  | plus =>
    dsimp only
    rw [if_pos rfl]
    dsimp only
    exact if_pos hb
  | minus =>
    dsimp only
    rw [if_neg (by decide), if_pos rfl]
    dsimp only
    exact if_pos hb

/-- An exponent is read by its sign and its digits. -/
theorem exponent_toOption (hsign : ExponentSign bs up (ds ++ rest)) (hds : IsDigits ds)
    (hrest : digitNext rest = false) : (exponent positive n k bs).toOption =
      (if decimal ds < 0x80000000 then
          Numeral.float? positive n (if up then k + decimal ds else k - decimal ds)
        else if n ≠ 0 && up then none
        else Numeral.float? positive 0 0).map fun v => (v, rest) := by
  obtain ⟨hne, hall⟩ := hds
  cases ds with
  | nil => exact absurd rfl hne
  | cons b ds =>
    obtain ⟨hb, hmore⟩ := List.forall_mem_cons.mp hall
    have hlt := digitValue_lt hb
    obtain ⟨r, hread, hdrop, hfits⟩ :=
      exponentDigits_append hmore hrest (n := digitValue b) (by omega)
    have hdecimal : decimal (b :: ds) = decimalFrom (digitValue b) ds := by
      show decimalFrom (0 * 10 + digitValue b) ds = _
      rw [Nat.zero_mul, Nat.zero_add]
    rw [List.cons_append] at hsign
    rw [exponent_sign hsign hb, hread, hdecimal]
    by_cases hsmall : decimalFrom (digitValue b) ds < 0x80000000
    · rw [if_pos hsmall, if_pos hsmall, hfits hsmall]
      exact floatOf_toOption _ _ _ _
    · rw [if_neg hsmall, if_neg hsmall]
      dsimp only
      split
      · rfl
      · rw [hdrop]
        exact floatOf_toOption _ _ _ _

/-- A fraction is read by its digits. -/
theorem fraction_read (hds : IsDigits ds) (ht : digitNext t = false) :
    fraction positive n k (ds ++ t) =
      if letterNext 0x65 t then
        exponent positive (addDigits n 0 ds).1 (k - (addDigits n 0 ds).2.1) (t.drop 1)
      else floatOf positive (addDigits n 0 ds).1 (k - (addDigits n 0 ds).2.1) t := by
  obtain ⟨hne, hall⟩ := hds
  have hleft := left_digits hall n 0
  have hlength := addDigits_length n 0 ds
  unfold fraction
  rw [addDigits_append hall ht]
  generalize addDigits n 0 ds = p at hleft hlength
  obtain ⟨m, count, left⟩ := p
  dsimp only at hleft hlength ⊢
  have hsome : ¬ (decide (count = 0) && !digitNext (left ++ t)) = true := by
    intro hnone
    simp only [Bool.and_eq_true, decide_eq_true_eq, Bool.not_eq_true'] at hnone
    obtain ⟨hcount, hnext⟩ := hnone
    by_cases hnil : left = []
    · subst hnil
      have hpos := List.length_pos_iff.mpr hne
      rw [List.length_nil] at hlength
      omega
    · rw [IsDigits.digitNext ⟨hnil, hleft⟩] at hnext
      cases hnext
  rw [if_neg hsome, (takeWhile_digits hleft ht).2]

/-- A number is read by its whole digits. -/
theorem whole_read (hds : IsDigits ds) (hzero : ds.head? = some 0x30 → ds = [0x30])
    (ht : digitNext t = false) : number positive (ds ++ t) =
      let n := (addDigits 0 0 ds).1
      let left := (addDigits 0 0 ds).2.2
      if t.head? = some 0x2E then fraction positive n left.length (t.drop 1)
      else if letterNext 0x65 t then exponent positive n left.length (t.drop 1)
      else if left ≠ [] then floatOf positive n left.length t
      else if positive then .ok (.int n, t)
      else if n = 0 || 0x8000000000000000 < n then .ok (.float (Binary64.ofRatio n 1).neg, t)
      else .ok (.int (-n), t) := by
  obtain ⟨hne, hall⟩ := hds
  cases ds with
  | nil => exact absurd rfl hne
  | cons b ds =>
    obtain ⟨hb, hmore⟩ := List.forall_mem_cons.mp hall
    have hnot : ¬ (!isDigitOctet b) = true := by
      rw [hb]
      decide
    unfold number
    rw [List.cons_append]
    dsimp only
    rw [if_neg hnot]
    by_cases hbare : b = 0x30
    · subst hbare
      obtain rfl : ds = [] := (List.cons.inj (hzero rfl)).2
      have hread : addDigits 0 0 [0x30] = (0, 1, []) := rfl
      obtain ⟨htake, hdrop⟩ := takeWhile_digits (List.forall_mem_nil (isDigitOctet · = true)) ht
      rw [List.nil_append] at htake hdrop
      rw [List.nil_append, ht, hread, Bool.and_false, if_neg Bool.false_ne_true, if_pos rfl]
      dsimp only
      rw [htake, hdrop, ht]
      rfl
    · have hlt := digitValue_lt hb
      have hfirst : addDigits 0 0 (b :: ds) = addDigits (digitValue b) 1 ds := by
        have hfits : 0 * 10 + digitValue b < 0x10000000000000000 := by omega
        conv => lhs; unfold addDigits
        rw [hb, Bool.true_and, if_pos (decide_eq_true hfits), Nat.zero_mul, Nat.zero_add]
      obtain ⟨hn, hl⟩ := addDigits_count (digitValue b) 1 ds
      have hleft := left_digits hmore (digitValue b) 0
      have hbare' : ¬ (decide (b = 0x30) && digitNext (ds ++ t)) = true := by
        rw [decide_eq_false hbare, Bool.false_and]
        exact Bool.false_ne_true
      rw [if_neg hbare', if_neg hbare, addDigits_append hmore ht, hfirst, hn, hl]
      dsimp only
      obtain ⟨htake, hdrop⟩ := takeWhile_digits hleft ht
      rw [htake, hdrop]
      by_cases hnil : (addDigits (digitValue b) 0 ds).2.2 = []
      · have hnone : ¬ ([] : Bytes) ≠ [] := fun h => h rfl
        rw [hnil, List.nil_append, ht, if_neg Bool.false_ne_true, if_neg hnone]
      · rw [IsDigits.digitNext ⟨hnil, hleft⟩, if_pos rfl, if_pos hnil]

/-! ## Numbers -/

/-- Does the number end here, with nothing behind it that one of its parts might begin with? -/
def Numeral.EndsAt (m : Numeral) (rest : Bytes) : Prop :=
  digitNext rest = false ∧
    (m.exponent = none → letterNext 0x65 rest = false ∧
      (m.fraction = none → rest.head? ≠ some 0x2E))

theorem letterNext_cons {e : UInt8} (he : e = 0x65 ∨ e = 0x45) (r : Bytes) :
    letterNext 0x65 (e :: r) = true ∧ digitNext (e :: r) = false ∧
      (e :: r).head? ≠ some 0x2E := by
  rcases he with rfl | rfl
  · exact ⟨rfl, rfl, by simp⟩
  · exact ⟨rfl, rfl, by simp⟩

/-- A number without fraction and exponent is read as an integer where it fits. -/
theorem number_plain {negative : Bool} (hds : IsDigits ds)
    (hzero : ds.head? = some 0x30 → ds = [0x30]) (hrest : digitNext rest = false)
    (hletter : letterNext 0x65 rest = false) (hpoint : rest.head? ≠ some 0x2E) :
    (number (!negative) (ds ++ rest)).toOption =
      (Numeral.value? { negative, whole := ds, fraction := none, exponent := none }).map
        fun v => (v, rest) := by
  rw [whole_read hds hzero hrest]
  dsimp only
  rw [if_neg hpoint, hletter, if_neg Bool.false_ne_true]
  unfold Numeral.value?
  dsimp only
  rw [Option.isSome_none, Option.isSome_none, Bool.or_self, if_neg Bool.false_ne_true]
  by_cases hlarge : 0x10000000000000000 ≤ decimal ds
  · have hleft := left_ne_nil (n := 0) (by decide) hlarge 0
    rw [if_pos hleft, if_pos hlarge]
    exact floatOf_toOption _ _ _ _
  · have hall := addDigits_whole (n := 0) hds.2 (Nat.not_le.mp hlarge) 0
    have hnone : ¬ ([] : Bytes) ≠ [] := fun h => h rfl
    have hsame : decimalFrom 0 ds = decimal ds := rfl
    rw [if_neg hlarge, hall, hsame]
    dsimp only
    rw [if_neg hnone]
    cases negative with
    | false => rfl
    | true =>
      rw [if_neg (by decide), if_pos rfl]
      split <;> rfl

/-- A number is read as what its parts stand for. -/
theorem number_numeral {m : Numeral} (h : Unsigned bs m rest) (hend : m.EndsAt rest) :
    (number (!m.negative) bs).toOption = m.value?.map fun v => (v, rest) := by
  obtain ⟨hrest, hbehind⟩ := hend
  cases h with
  | parts hds hzero hfraction hexponent =>
    cases hfraction with
    | none =>
      cases hexponent with
      | none =>
        obtain ⟨hletter, hpoint⟩ := hbehind rfl
        exact number_plain hds hzero hrest hletter (hpoint rfl)
      | some he hsign hdigits =>
        obtain ⟨hletter, hnext, hpoint⟩ := letterNext_cons he _
        rw [whole_read hds hzero hnext]
        dsimp only
        rw [if_neg hpoint, if_pos hletter]
        exact exponent_toOption hsign hdigits hrest
    | some hfraction =>
      rw [whole_read hds hzero rfl]
      dsimp only
      rw [List.head?_cons, if_pos rfl, List.drop_succ_cons, List.drop_zero]
      cases hexponent with
      | none =>
        obtain ⟨hletter, -⟩ := hbehind rfl
        rw [fraction_read hfraction hrest, hletter, if_neg Bool.false_ne_true]
        exact floatOf_toOption _ _ _ _
      | some he hsign hdigits =>
        obtain ⟨hletter, hnext, -⟩ := letterNext_cons he _
        rw [fraction_read hfraction hnext, if_pos hletter]
        exact exponent_toOption hsign hdigits hrest

/-! ## What is read -/

variable {p : Json × Bytes}

/-- What is read from a digit on is read only if a digit comes. -/
theorem digitNext_of_ok {read : UInt8 → Bytes → Read Json} {r : Bytes} (h : (match r with
    | [] => stopAt .endInValue []
    | b :: s => if isDigitOctet b then read b s else stopAt .invalidNumber s) = .ok p) :
    digitNext r = true := by
  cases r with
  | nil => cases h
  | cons b s =>
    dsimp only at h
    split at h
    · next hb => exact hb
    · cases h

/-- An exponent is read only with digits behind its sign. -/
theorem exists_exponent (h : exponent positive n k bs = .ok p) :
    ∃ up ds rest, ExponentSign bs up (ds ++ rest) ∧ IsDigits ds ∧ digitNext rest = false := by
  have hsign : ∃ up r, ExponentSign bs up r ∧ digitNext r = true := by
    unfold exponent at h
    cases bs with
    | nil => cases h
    | cons b r =>
      dsimp only at h
      by_cases hplus : b = 0x2B
      · rw [if_pos hplus] at h
        exact ⟨true, r, hplus ▸ .plus, digitNext_of_ok h⟩
      · rw [if_neg hplus] at h
        by_cases hminus : b = 0x2D
        · rw [if_pos hminus] at h
          exact ⟨false, r, hminus ▸ .minus, digitNext_of_ok h⟩
        · rw [if_neg hminus] at h
          dsimp only at h
          split at h
          · next hb => exact ⟨true, b :: r, .none, hb⟩
          · cases h
  obtain ⟨up, r, hsign, hnext⟩ := hsign
  obtain ⟨ds, rest, rfl, hds, hrest⟩ := exists_digits hnext
  exact ⟨up, ds, rest, hsign, hds, hrest⟩

/-- A fraction is read only with digits behind its point. -/
theorem digitNext_of_fraction (h : fraction positive n k bs = .ok p) : digitNext bs = true := by
  cases hnext : digitNext bs with
  | true => rfl
  | false =>
    have hnone := addDigits_append (List.forall_mem_nil (isDigitOctet · = true)) hnext n 0
    rw [List.nil_append] at hnone
    have hread : addDigits n 0 bs = (n, 0, bs) := hnone
    unfold fraction at h
    rw [hread] at h
    dsimp only at h
    rw [hnext, if_pos (by decide)] at h
    split at h <;> cases h

/-- A number is read only with whole digits, of which the first is a zero only by itself. -/
theorem exists_whole (h : number positive bs = .ok p) : ∃ ds t, bs = ds ++ t ∧ IsDigits ds ∧
    (ds.head? = some 0x30 → ds = [0x30]) ∧ digitNext t = false := by
  cases bs with
  | nil => cases h
  | cons b r =>
    unfold number at h
    dsimp only at h
    split at h
    · cases h
    next hb =>
    have hdigit : isDigitOctet b = true := by simpa using hb
    have hnext : digitNext (b :: r) = true := hdigit
    obtain ⟨ds, t, hsplit, hds, ht⟩ := exists_digits hnext
    refine ⟨ds, t, hsplit, hds, fun hhead => ?_, ht⟩
    split at h
    · cases h
    next hbare =>
    cases ds with
    | nil => cases hhead
    | cons c ds =>
      obtain rfl := Option.some.inj hhead
      obtain ⟨rfl, hr⟩ := List.cons.inj hsplit
      have hover : digitNext r = false := by simpa using hbare
      cases ds with
      | nil => rfl
      | cons d ds =>
        rw [hr] at hover
        have hd : isDigitOctet d = true := hds.2 d (by simp)
        exact absurd hd (Bool.eq_false_iff.mp hover)

theorem exists_cons_of_letterNext (h : letterNext 0x65 bs = true) :
    ∃ e r, bs = e :: r ∧ (e = 0x65 ∨ e = 0x45) := by
  cases bs with
  | nil => cases h
  | cons e r =>
    have he : (decide (e = 0x65) || decide (e = 0x65 - 0x20)) = true := h
    exact ⟨e, r, rfl, by simpa using he⟩

/-- Behind the fraction, if there is one, an exponent comes, or the number ends. -/
theorem exists_end (whole : Bytes) (fraction : Option Bytes) {s : Bytes} (hs : digitNext s = false)
    (hpoint : fraction = none → s.head? ≠ some 0x2E)
    (h : letterNext 0x65 s = true → ∃ n k, exponent positive n k (s.drop 1) = .ok p)
    (negative : Bool) : ∃ e rest, Exponent s e rest ∧
      Numeral.EndsAt { negative, whole, fraction, exponent := e } rest := by
  cases hletter : letterNext 0x65 s with
  | true =>
    obtain ⟨e, r, rfl, he⟩ := exists_cons_of_letterNext hletter
    obtain ⟨n, k, hread⟩ := h hletter
    obtain ⟨up, ds, rest, hsign, hds, hrest⟩ := exists_exponent hread
    exact ⟨some (up, ds), rest, .some he hsign hds, hrest, fun hnone => nomatch hnone⟩
  | false => exact ⟨none, s, .none, hs, fun _ => ⟨hletter, hpoint⟩⟩

/-- Whatever is read as a number has the parts of one. -/
theorem exists_numeral (h : number positive bs = .ok p) :
    ∃ m rest, Unsigned bs m rest ∧ m.EndsAt rest ∧ m.negative = !positive := by
  obtain ⟨ds, t, rfl, hds, hzero, ht⟩ := exists_whole h
  rw [whole_read hds hzero ht] at h
  dsimp only at h
  split at h
  · next hpoint =>
    obtain ⟨u, rfl⟩ := List.head?_eq_some_iff.mp hpoint
    rw [List.drop_succ_cons, List.drop_zero] at h
    obtain ⟨ds', s, rfl, hds', hs⟩ := exists_digits (digitNext_of_fraction h)
    rw [fraction_read hds' hs] at h
    obtain ⟨e, rest, hexponent, hend⟩ := exists_end ds (some ds') hs
      (fun hnone => nomatch hnone)
      (fun hletter => ⟨_, _, (if_pos hletter).symm.trans h⟩) (!positive)
    exact ⟨_, rest, .parts hds hzero (.some hds') hexponent, hend, rfl⟩
  · next hpoint =>
    obtain ⟨e, rest, hexponent, hend⟩ := exists_end ds none ht
      (fun _ => hpoint) (fun hletter => ⟨_, _, (if_pos hletter).symm.trans h⟩) (!positive)
    exact ⟨_, rest, .parts hds hzero .none hexponent, hend, rfl⟩

end DeviceGateway.Json
