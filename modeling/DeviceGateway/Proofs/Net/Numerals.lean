import DeviceGateway.Net.Address
import DeviceGateway.Proofs.Text.Parts
import DeviceGateway.Proofs.Toml.Numbers
import Mathlib.Data.List.Forall2

/-
  Numbers in the texts of addresses. A numeral is written with the digits of its number, in letters
  of either case and with any number of zeros in front (`IsNumeral`); the readers take all digits
  there are, so each reads just the numerals within its bounds that no further digit follows
  (`number_eq_some_iff`, `group_eq_some_iff`). An octet has one text only (`octet_eq_some_iff`).
-/

namespace DeviceGateway.Net

open Text

variable {base n m d : Nat} {c : Char} {cs r : List Char} {ds : List Nat}

/-! ## Digits -/

theorem digit_eq_some_iff (hbase : base ≤ 16) :
    digit? base c = some d ↔ d < base ∧ c.toLower = d.digitChar := by
  have hascii : ∀ n < 128, ∀ d < 16,
      (digit? 16 (Char.ofNat n) = some d ↔ (Char.ofNat n).toLower = d.digitChar) := by
    decide +kernel
  have hhex : digit? base c = some d ↔ d < base ∧ digit? 16 c = some d := by
    unfold digit?
    grind
  rw [hhex]
  refine and_congr_right fun hd => ?_
  by_cases hc : c.toNat < 128
  · have h := hascii c.toNat hc d (by omega)
    rwa [Char.ofNat_toNat] at h
  · -- Beyond ASCII there are neither digits nor capitals.
    have hsame : c.toLower = c := by
      refine dif_neg fun hcapital => hc ?_
      have hle := UInt32.le_iff_toNat_le.mp hcapital.2
      exact Nat.lt_of_le_of_lt hle (by decide)
    have hnone : digit? 16 c ≠ some d := by
      unfold digit?
      grind
    have hsmall : ∀ d < 16, d.digitChar.toNat < 128 := by decide
    have hne : c ≠ d.digitChar := by
      rintro rfl
      exact hc (hsmall d (by omega))
    rw [hsame]
    exact ⟨fun h => absurd h hnone, fun h => absurd h hne⟩

theorem decimal_eq (h : digit? 10 c = some d) : c = d.digitChar := by
  obtain ⟨hd, hlower⟩ := (digit_eq_some_iff (by decide)).mp h
  have hall : ∀ d < 10, d.digitChar.isAlpha = false := by decide
  exact ((toLower_spec c).2.1 _ (hall d hd)).mp hlower

/-- Characters that are the digits of a list, one by one. -/
def Digits (base : Nat) : List Char → List Nat → Prop :=
  List.Forall₂ fun c d => digit? base c = some d

/-- The number that digits write behind another one. -/
def value (base : Nat) (n : Nat) (ds : List Nat) : Nat := ds.foldl (fun n d => n * base + d) n

/-- Digits are taken as long as there are any. -/
theorem digits_append (h : Digits base cs ds) (hr : ∀ c ∈ r.head?, digit? base c = none) :
    digits base (cs ++ r) = (ds, r) := by
  induction h with
  | nil =>
    cases r with
    | nil => rfl
    | cons c r =>
      have hc : digit? base c = none := hr c rfl
      simp [digits, hc]
  | cons hc _ ih => simp [digits, hc, ih]

theorem digits_spec (h : digits base cs = (ds, r)) :
    ∃ front, cs = front ++ r ∧ Digits base front ds ∧ ∀ c ∈ r.head?, digit? base c = none := by
  induction cs generalizing ds with
  | nil =>
    obtain ⟨rfl, rfl⟩ := Prod.mk.inj h
    exact ⟨[], rfl, .nil, nofun⟩
  | cons c cs ih =>
    unfold digits at h
    cases hc : digit? base c with
    | none =>
      rw [hc] at h
      obtain ⟨rfl, rfl⟩ := Prod.mk.inj h
      exact ⟨[], rfl, .nil, by simp [hc]⟩
    | some d =>
      rw [hc] at h
      obtain ⟨rfl, rfl⟩ := Prod.mk.inj h
      obtain ⟨front, hcs, hfront, hr⟩ := ih rfl
      exact ⟨c :: front, congrArg (c :: ·) hcs, .cons hc hfront, hr⟩

theorem Digits.unique {es : List Nat} (h : Digits base cs ds) (h' : Digits base cs es) :
    ds = es := by
  have hds := digits_append (r := []) h nofun
  rw [digits_append (r := []) h' nofun] at hds
  exact (congrArg Prod.fst hds).symm

/-! ## Numerals -/

/-- Is a text a numeral of a number: its digits, in letters of either case, with zeros in front? -/
def IsNumeral (base : Nat) (cs : List Char) (n : Nat) : Prop :=
  ∃ zeros, lowerAscii cs = List.replicate zeros '0' ++ Nat.toDigits base n

/-- Digits behind a number that is not zero go on with its own digits. -/
theorem Digits.behind (hbase : 1 < base ∧ base ≤ 16) (h : Digits base cs ds) (hn : 0 < n) :
    Nat.toDigits base n ++ lowerAscii cs = Nat.toDigits base (value base n ds) := by
  induction h generalizing n with
  | nil => exact List.append_nil _
  | @cons c d cs ds hc _ ih =>
    obtain ⟨hd, hlower⟩ := (digit_eq_some_iff hbase.2).mp hc
    have hmore : Nat.toDigits base n ++ [c.toLower] = Nat.toDigits base (n * base + d) := by
      rw [hlower, ← Nat.toDigits_of_lt_base hd, Nat.toDigits_append_toDigits hbase.1 hn hd,
        Nat.mul_comm]
    have hpos : 0 < n * base + d := Nat.add_pos_left (Nat.mul_pos hn (by omega)) d
    calc Nat.toDigits base n ++ lowerAscii (c :: cs)
        = (Nat.toDigits base n ++ [c.toLower]) ++ lowerAscii cs := by simp [lowerAscii]
      _ = Nat.toDigits base (value base (n * base + d) ds) := by rw [hmore, ih hpos]

/-- One digit or more are a numeral of the number they write. -/
theorem Digits.isNumeral (hbase : 1 < base ∧ base ≤ 16) (h : Digits base cs ds) (hne : ds ≠ []) :
    IsNumeral base cs (value base 0 ds) := by
  induction h with
  | nil => exact absurd rfl hne
  | @cons c d cs ds hc hcs ih =>
    obtain ⟨hd, hlower⟩ := (digit_eq_some_iff hbase.2).mp hc
    have hvalue : value base 0 (d :: ds) = value base d ds := by simp [value]
    have hcons : lowerAscii (c :: cs) = d.digitChar :: lowerAscii cs := by
      simp [lowerAscii, hlower]
    rw [hvalue]
    by_cases hzero : d = 0
    · subst hzero
      cases hcs with
      | nil => exact ⟨0, hcons.trans (Nat.toDigits_zero base).symm⟩
      | cons hc' hcs' =>
        obtain ⟨zeros, hzeros⟩ := ih (List.cons_ne_nil _ _)
        refine ⟨zeros + 1, ?_⟩
        rw [hcons, hzeros]
        rfl
    · refine ⟨0, ?_⟩
      rw [hcons, List.replicate_zero, List.nil_append, ← Digits.behind hbase hcs (by omega),
        Nat.toDigits_of_lt_base hd]
      rfl

theorem exists_of_toDigits (hbase : 1 < base) (n : Nat) :
    ∃ ds, ds ≠ [] ∧ (∀ d ∈ ds, d < base) ∧ Nat.toDigits base n = ds.map Nat.digitChar ∧
      value base 0 ds = n := by
  induction n using Nat.strongRecOn with
  | ind n ih =>
    by_cases hn : n < base
    · exact ⟨[n], by simp, by simpa using hn, Nat.toDigits_of_lt_base hn, by simp [value]⟩
    · obtain ⟨ds, -, hds, hdigits, hvalue⟩ := ih (n / base) (Nat.div_lt_self (by omega) hbase)
      have hlow : n % base < base := Nat.mod_lt n (by omega)
      refine ⟨ds ++ [n % base], by simp, ?_, ?_, ?_⟩
      · simp only [List.mem_append, List.mem_singleton]
        rintro d (hd | rfl)
        · exact hds d hd
        · exact hlow
      · rw [Nat.toDigits_of_base_le hbase (by omega), hdigits]
        simp
      · unfold value at hvalue ⊢
        rw [List.foldl_append, hvalue]
        exact Nat.div_add_mod' n base

theorem digits_of_lower (hbase : base ≤ 16) (hds : ∀ d ∈ ds, d < base)
    (h : lowerAscii cs = ds.map Nat.digitChar) : Digits base cs ds := by
  induction ds generalizing cs with
  | nil =>
    obtain rfl := List.map_eq_nil_iff.mp h
    exact .nil
  | cons d ds ih =>
    obtain ⟨hd, hds⟩ := List.forall_mem_cons.mp hds
    obtain ⟨c, cs, rfl, hc, hcs⟩ := List.map_eq_cons_iff.mp h
    exact .cons ((digit_eq_some_iff hbase).mpr ⟨hd, hc⟩) (ih hds hcs)

/-- A numeral is made of digits that write its number. -/
theorem IsNumeral.digits (hbase : 1 < base ∧ base ≤ 16) (h : IsNumeral base cs n) :
    ∃ ds, ds ≠ [] ∧ Digits base cs ds ∧ value base 0 ds = n := by
  obtain ⟨zeros, hcs⟩ := h
  obtain ⟨ds, hne, hds, hdigits, hvalue⟩ := exists_of_toDigits hbase.1 n
  refine ⟨List.replicate zeros 0 ++ ds, by simp [hne], digits_of_lower hbase.2 ?_ ?_, ?_⟩
  · simp only [List.mem_append, List.mem_replicate]
    rintro d (⟨-, rfl⟩ | hd)
    · omega
    · exact hds d hd
  · rw [hcs, hdigits, List.map_append, List.map_replicate]
    rfl
  · have hzeros : value base 0 (List.replicate zeros 0) = 0 := by
      clear hcs
      induction zeros with
      | zero => rfl
      | succ zeros ih => simpa [value, List.replicate_succ] using ih
    unfold value at hzeros hvalue ⊢
    rw [List.foldl_append, hzeros, hvalue]

theorem IsNumeral.unique (hbase : 1 < base ∧ base ≤ 16) (h : IsNumeral base cs n)
    (h' : IsNumeral base cs m) : n = m := by
  obtain ⟨ds, -, hds, rfl⟩ := h.digits hbase
  obtain ⟨es, -, hes, rfl⟩ := h'.digits hbase
  rw [hds.unique hes]

/-- A numeral has a first character, and all its characters are digits. -/
theorem IsNumeral.head (hbase : 1 < base ∧ base ≤ 16) (h : IsNumeral base cs n) :
    ∃ c r, cs = c :: r ∧ ∀ c ∈ cs, digit? base c ≠ none := by
  obtain ⟨ds, hne, hds, -⟩ := h.digits hbase
  have hall : ∀ {cs : List Char} {ds : List Nat}, Digits base cs ds →
      ∀ c ∈ cs, digit? base c ≠ none := by
    intro cs ds hds
    induction hds with
    | nil => exact nofun
    | cons hc _ ih => exact List.forall_mem_cons.mpr ⟨by simp [hc], ih⟩
  cases cs with
  | nil => exact absurd (List.forall₂_nil_left_iff.mp hds) hne
  | cons c r => exact ⟨c, r, rfl, hall hds⟩

/-! ## Readers -/

theorem expect_eq_some_iff : expect c cs = some r ↔ cs = c :: r := by
  cases cs with
  | nil => simp [expect]
  | cons d cs =>
    unfold expect
    by_cases hd : d = c
    · simp [hd]
    · simp [hd]

/-- All digits in front, when there are any, are a numeral. -/
theorem digits_eq_iff (hbase : 1 < base ∧ base ≤ 16) {k : Nat} :
    (∃ ds, digits base cs = (ds, r) ∧ ds ≠ [] ∧ ds.length = k ∧ value base 0 ds = n) ↔
      ∃ front, cs = front ++ r ∧ IsNumeral base front n ∧ front.length = k ∧
        ∀ c ∈ r.head?, digit? base c = none := by
  constructor
  · rintro ⟨ds, hdigits, hne, hlength, rfl⟩
    obtain ⟨front, hcs, hfront, hr⟩ := digits_spec hdigits
    exact ⟨front, hcs, hfront.isNumeral hbase hne,
      (List.Forall₂.length_eq hfront).trans hlength, hr⟩
  · rintro ⟨front, rfl, hfront, hlength, hr⟩
    obtain ⟨ds, hne, hds, rfl⟩ := hfront.digits hbase
    exact ⟨ds, digits_append hds hr, hne, (List.Forall₂.length_eq hds).symm.trans hlength, rfl⟩

/-- Numerals up to a limit are read. -/
theorem number_eq_some_iff {limit : Nat} (hbase : 1 < base ∧ base ≤ 16) :
    number base limit cs = some (n, r) ↔ ∃ front, cs = front ++ r ∧ IsNumeral base front n ∧
      n ≤ limit ∧ ∀ c ∈ r.head?, digit? base c = none := by
  have hnumber : number base limit cs = some (n, r) ↔
      n ≤ limit ∧ ∃ k ds, digits base cs = (ds, r) ∧ ds ≠ [] ∧ ds.length = k ∧
        value base 0 ds = n := by
    unfold number
    rcases digits base cs with ⟨_ | ⟨d, ds⟩, s⟩
    · simp
    · constructor
      · intro h
        obtain ⟨hle, heq⟩ := Option.ite_none_right_eq_some.mp h
        obtain ⟨rfl, rfl⟩ := Prod.mk.inj (Option.some.inj heq)
        exact ⟨hle, _, d :: ds, rfl, List.cons_ne_nil _ _, rfl, rfl⟩
      · rintro ⟨hle, _, ds', heq, -, -, rfl⟩
        obtain ⟨rfl, rfl⟩ := Prod.mk.inj heq
        exact if_pos hle
  rw [hnumber]
  simp only [digits_eq_iff hbase]
  grind

/-- Hexadecimal numerals of up to four digits are read. -/
theorem group_eq_some_iff : group cs = some (n, r) ↔ ∃ front, cs = front ++ r ∧
    IsNumeral 16 front n ∧ front.length ≤ 4 ∧ ∀ c ∈ r.head?, digit? 16 c = none := by
  have hgroup : group cs = some (n, r) ↔ ∃ k ≤ 4, ∃ ds, digits 16 cs = (ds, r) ∧ ds ≠ [] ∧
      ds.length = k ∧ value 16 0 ds = n := by
    unfold group
    rcases digits 16 cs with ⟨_ | ⟨d, ds⟩, s⟩
    · simp
    · constructor
      · intro h
        obtain ⟨hlength, heq⟩ := Option.ite_none_left_eq_some.mp h
        obtain ⟨rfl, rfl⟩ := Prod.mk.inj (Option.some.inj heq)
        exact ⟨_, Nat.not_lt.mp hlength, d :: ds, rfl, List.cons_ne_nil _ _, rfl, rfl⟩
      · rintro ⟨_, hle, ds', heq, -, rfl, rfl⟩
        obtain ⟨rfl, rfl⟩ := Prod.mk.inj heq
        exact if_neg (Nat.not_lt.mpr hle)
  rw [hgroup]
  simp only [digits_eq_iff (show 1 < 16 ∧ 16 ≤ 16 by decide)]
  grind

/-! ## Octets -/

theorem Digits.lower_eq (h : Digits 10 cs ds) : lowerAscii cs = cs := by
  induction h with
  | nil => rfl
  | @cons c d cs ds hc _ ih =>
    have hlower := ((digit_eq_some_iff (by decide)).mp hc).2
    rw [← decimal_eq hc] at hlower
    exact congrArg₂ List.cons hlower ih

theorem lower_toDigits (n : Nat) : lowerAscii (Nat.toDigits 10 n) = Nat.toDigits 10 n := by
  obtain ⟨ds, -, hds, hdigits, -⟩ := exists_of_toDigits (show 1 < 10 by decide) n
  rw [hdigits]
  have hsmall : ∀ d < 10, d.digitChar.toLower = d.digitChar := by decide
  simp only [lowerAscii, List.map_map]
  exact List.map_congr_left fun d hd => hsmall d (hds d hd)

/-- A number's own digits are a numeral of it. -/
theorem isNumeral_toDigits (n : Nat) : IsNumeral 10 (Nat.toDigits 10 n) n :=
  ⟨0, lower_toDigits n⟩

/-- An octet is read from its digits alone. -/
theorem octet_eq_some_iff : octet cs = some (n, r) ↔ cs = Nat.toDigits 10 n ++ r ∧ n ≤ 255 ∧
    ∀ c ∈ r.head?, digit? 10 c = none := by
  constructor
  · intro h
    unfold octet at h
    split at h
    · cases h
    · next d ds s hdigits =>
      obtain ⟨hfits, heq⟩ := Option.ite_none_left_eq_some.mp h
      obtain ⟨rfl, rfl⟩ := Prod.mk.inj (Option.some.inj heq)
      obtain ⟨front, rfl, hfront, hr⟩ := digits_spec hdigits
      simp only [Bool.or_eq_true, Bool.and_eq_true, decide_eq_true_eq, Bool.not_eq_true',
        List.isEmpty_eq_false_iff, not_or, not_and, Decidable.not_not] at hfits
      obtain ⟨⟨hzero, -⟩, hle⟩ := hfits
      refine ⟨congrArg (· ++ s) ?_, Nat.not_lt.mp hle, hr⟩
      cases hfront with
      | @cons c _ cs _ hc hcs =>
        rw [decimal_eq hc]
        by_cases hd : d = 0
        · -- A zero in front stands alone.
          obtain rfl := hzero hd
          obtain rfl := hd
          cases hcs
          rfl
        · have hsmall := ((digit_eq_some_iff (by decide)).mp hc).1
          have hbehind := Digits.behind (by decide) hcs (Nat.pos_of_ne_zero hd)
          rw [Digits.lower_eq hcs, Nat.toDigits_of_lt_base hsmall] at hbehind
          exact hbehind
  · rintro ⟨rfl, hle, hr⟩
    obtain ⟨ds, hne, hds, hvalue⟩ := (isNumeral_toDigits n).digits (by decide)
    have hlength : ds.length ≤ 3 := by
      rw [← List.Forall₂.length_eq hds, Nat.length_toDigits_le_iff (by decide) (by decide)]
      omega
    cases ds with
    | nil => exact absurd rfl hne
    | cons d ds =>
      have hzero : d = 0 → ds = [] := by
        rintro rfl
        rcases Nat.eq_zero_or_pos n with rfl | hn
        · rw [Nat.toDigits_zero] at hds
          cases hds with
          | cons _ hrest => exact List.forall₂_nil_left_iff.mp hrest
        · obtain ⟨c, cs, hdigits, hc⟩ := Toml.toDigits_head hn
          rw [hdigits] at hds
          cases hds with
          | cons hfirst _ => exact absurd (decimal_eq hfirst) hc
      have hvalue : ds.foldl (fun n d => n * 10 + d) d = n := by simpa [value] using hvalue
      unfold octet
      rw [digits_append hds hr]
      simp only [hvalue]
      refine if_neg ?_
      simp only [List.length_cons] at hlength
      simp only [Bool.or_eq_true, Bool.and_eq_true, decide_eq_true_eq, Bool.not_eq_true',
        List.isEmpty_eq_false_iff, not_or, not_and, Decidable.not_not]
      exact ⟨⟨hzero, by omega⟩, by omega⟩

end DeviceGateway.Net
