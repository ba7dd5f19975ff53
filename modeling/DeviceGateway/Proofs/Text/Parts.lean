import DeviceGateway.Text.Blank
import Mathlib.Data.List.DropRight

/-
  Parts of a text. Separators stand between the parts that have anything in them, in any number
  (`parts_append`, `exists_of_parts`); the first of them stands between what is before it and what
  is after it (`splitOnce_eq_some_iff`). A text that was trimmed neither begins nor ends with a
  blank, so something that is no blank follows each blank in it (`trim_ne_nil_of_trim`). Small
  letters in place of capitals leave blanks and separators as they are (`trim_lowerAscii`,
  `splitOn_lowerAscii`).
-/

namespace DeviceGateway.Text

variable {sep : Char} {cs ds : List Char}

theorem splitOn_ne_nil (sep : Char) (cs : List Char) : splitOn sep cs ≠ [] := by
  cases cs with
  | nil => exact List.cons_ne_nil [] []
  | cons c cs =>
    unfold splitOn
    split
    · exact List.cons_ne_nil [c] []
    · split <;> exact List.cons_ne_nil _ _

theorem splitOn_sep (sep : Char) (cs : List Char) :
    splitOn sep (sep :: cs) = [] :: splitOn sep cs := by
  conv => lhs; unfold splitOn
  cases h : splitOn sep cs with
  | nil => exact absurd h (splitOn_ne_nil sep cs)
  | cons p ps => exact if_pos rfl

/-- Splitting a text is splitting a list. -/
theorem splitOn_eq (sep : Char) (cs : List Char) : splitOn sep cs = cs.splitOn sep := by
  induction cs with
  | nil => rfl
  | cons c cs ih =>
    rw [splitOn, ih, List.splitOn_cons_eq_if_modifyHead]
    cases h : cs.splitOn sep with
    | nil => exact absurd h (List.splitOn_ne_nil sep cs)
    | cons p ps => simp [List.modifyHead]

/-- A separator between two texts splits them. -/
theorem splitOn_append_sep (cs ds : List Char) :
    splitOn sep (cs ++ sep :: ds) = splitOn sep cs ++ splitOn sep ds := by
  rw [splitOn_eq, splitOn_eq, splitOn_eq, List.splitOn_append_cons_self]

/-- The characters of a text that are no separators are those of its parts. -/
theorem mem_splitOn {c : Char} :
    (∃ part ∈ splitOn sep cs, c ∈ part) ↔ c ∈ cs ∧ c ≠ sep := by
  induction cs with
  | nil => simp [splitOn]
  | cons d cs ih =>
    by_cases hd : d = sep
    · subst hd
      rw [splitOn_sep]
      grind
    · unfold splitOn
      cases hsplit : splitOn sep cs with
      | nil => exact absurd hsplit (splitOn_ne_nil sep cs)
      | cons p ps =>
        rw [hsplit] at ih
        simp only [if_neg hd, List.mem_cons] at ih ⊢
        grind

/-- The parts between separators that have anything in them. -/
def parts (sep : Char) (cs : List Char) : List (List Char) :=
  (splitOn sep cs).filter (!·.isEmpty)

theorem parts_sep (sep : Char) (cs : List Char) : parts sep (sep :: cs) = parts sep cs := by
  unfold parts
  rw [splitOn_sep]
  rfl

/-- Separators in front make no difference. -/
theorem parts_replicate (n : Nat) (cs : List Char) :
    parts sep (List.replicate n sep ++ cs) = parts sep cs := by
  induction n with
  | zero => rfl
  | succ n ih => rw [List.replicate_succ, List.cons_append, parts_sep, ih]

/-- Characters that are no separators and have one behind them, or nothing, are split off whole. -/
theorem splitOn_append (h : sep ∉ cs) (hds : ∀ d ∈ ds.head?, d = sep) :
    splitOn sep (cs ++ ds) = cs :: (splitOn sep ds).tail := by
  induction cs with
  | nil =>
    cases ds with
    | nil => rfl
    | cons d ds =>
      obtain rfl := hds d rfl
      rw [List.nil_append, splitOn_sep]
      rfl
  | cons c cs ih =>
    obtain ⟨hc, hcs⟩ := List.ne_and_not_mem_of_not_mem_cons h
    rw [List.cons_append]
    conv => lhs; unfold splitOn
    rw [ih hcs]
    exact if_neg (Ne.symm hc)

theorem parts_append (hcs : cs ≠ []) (h : sep ∉ cs) (hds : ∀ d ∈ ds.head?, d = sep) :
    parts sep (cs ++ ds) = cs :: parts sep ds := by
  have hempty : cs.isEmpty = false := List.isEmpty_eq_false_iff.mpr hcs
  have hsplit : splitOn sep ([] ++ ds) = [] :: (splitOn sep ds).tail :=
    splitOn_append List.not_mem_nil hds
  unfold parts
  rw [splitOn_append h hds, List.filter_cons_of_pos (by rw [hempty]; rfl)]
  rw [List.nil_append] at hsplit
  rw [hsplit]
  rfl

/-- A text without parts is made of separators. -/
theorem eq_replicate_of_parts (h : parts sep cs = []) : ∃ n, cs = List.replicate n sep := by
  induction cs with
  | nil => exact ⟨0, rfl⟩
  | cons c cs ih =>
    by_cases hc : c = sep
    · subst hc
      rw [parts_sep] at h
      obtain ⟨n, hn⟩ := ih h
      exact ⟨n + 1, congrArg (c :: ·) hn⟩
    · exfalso
      unfold parts splitOn at h
      cases hsplit : splitOn sep cs with
      | nil => exact splitOn_ne_nil sep cs hsplit
      | cons p ps =>
        rw [hsplit] at h
        dsimp only at h
        rw [if_neg hc] at h
        exact List.cons_ne_nil _ _ h

/-- The first part has separators in front and the other parts behind it. -/
theorem exists_of_parts {part : List Char} {more : List (List Char)}
    (h : parts sep cs = part :: more) :
    ∃ n ds, cs = List.replicate n sep ++ (part ++ ds) ∧ parts sep ds = more ∧
      ∀ d ∈ ds.head?, d = sep := by
  induction cs with
  | nil => cases h
  | cons c cs ih =>
    by_cases hc : c = sep
    · subst hc
      rw [parts_sep] at h
      obtain ⟨n, ds, hcs, hmore, hds⟩ := ih h
      exact ⟨n + 1, ds, congrArg (c :: ·) hcs, hmore, hds⟩
    · have hsplit : c :: cs = (c :: cs).takeWhile (· ≠ sep) ++ (c :: cs).dropWhile (· ≠ sep) :=
        List.takeWhile_append_dropWhile.symm
      have hfront : (c :: cs).takeWhile (· ≠ sep) ≠ [] := by
        rw [List.takeWhile_cons, if_pos (decide_eq_true hc)]
        exact List.cons_ne_nil _ _
      have hnone : sep ∉ (c :: cs).takeWhile (· ≠ sep) := by
        intro hmem
        have hne := List.mem_takeWhile_imp hmem
        simp at hne
      have hbehind : ∀ d ∈ ((c :: cs).dropWhile (· ≠ sep)).head?, d = sep := by
        intro d hd
        have hdrop := List.head?_dropWhile_not (· ≠ sep) (c :: cs)
        rw [Option.mem_def.mp hd] at hdrop
        simpa using hdrop
      generalize (c :: cs).takeWhile (· ≠ sep) = front at *
      generalize (c :: cs).dropWhile (· ≠ sep) = behind at *
      rw [hsplit, parts_append hfront hnone hbehind] at h
      obtain ⟨rfl, hmore⟩ := List.cons.inj h
      exact ⟨0, behind, hsplit, hmore, hbehind⟩

/-! ## The first separator -/

/-- A text is split at the separator that has none before it. -/
theorem splitOnce_eq_some_iff {front behind : List Char} :
    splitOnce sep cs = some (front, behind) ↔ cs = front ++ sep :: behind ∧ sep ∉ front := by
  unfold splitOnce
  constructor
  · intro h
    have hall : cs.takeWhile (· ≠ sep) ++ cs.dropWhile (· ≠ sep) = cs :=
      List.takeWhile_append_dropWhile
    have hnone : sep ∉ cs.takeWhile (· ≠ sep) := by
      intro hmem
      have hne := List.mem_takeWhile_imp hmem
      simp at hne
    cases hdrop : cs.dropWhile (· ≠ sep) with
    | nil =>
      rw [hdrop] at h
      cases h
    | cons c after =>
      have hc := List.head?_dropWhile_not (· ≠ sep) cs
      rw [hdrop] at h hall hc
      obtain ⟨rfl, rfl⟩ := Prod.mk.inj (Option.some.inj h)
      obtain rfl : c = sep := by simpa using hc
      exact ⟨hall.symm, hnone⟩
  · rintro ⟨rfl, hnone⟩
    have hfront : ∀ c ∈ front, decide (c ≠ sep) = true := fun c hc =>
      decide_eq_true (ne_of_mem_of_not_mem hc hnone)
    rw [List.dropWhile_append_of_pos hfront, List.takeWhile_append_of_pos hfront,
      List.dropWhile_cons_of_neg (by simp), List.takeWhile_cons_of_neg (by simp), List.append_nil]

/-- What stands before and behind the last separator is told by the text. -/
theorem append_sep_inj {front behind front' behind' : List Char} (h : sep ∉ behind)
    (h' : sep ∉ behind') (heq : front ++ sep :: behind = front' ++ sep :: behind') :
    front = front' ∧ behind = behind' := by
  have hreverse : behind.reverse ++ sep :: front.reverse =
      behind'.reverse ++ sep :: front'.reverse := by
    simpa using congrArg List.reverse heq
  have hsplit : splitOnce sep (behind.reverse ++ sep :: front.reverse) =
      some (behind.reverse, front.reverse) := splitOnce_eq_some_iff.mpr ⟨rfl, by simpa using h⟩
  have hsplit' : splitOnce sep (behind'.reverse ++ sep :: front'.reverse) =
      some (behind'.reverse, front'.reverse) := splitOnce_eq_some_iff.mpr ⟨rfl, by simpa using h'⟩
  rw [hreverse, hsplit'] at hsplit
  simpa [eq_comm, and_comm] using hsplit

/-! ## Blanks at the ends -/

theorem trim_eq_nil_iff : trim cs = [] ↔ ∀ c ∈ cs, isBlank c = true := by
  have hend : trim cs = (cs.dropWhile isBlank).rdropWhile isBlank := rfl
  rw [hend, List.rdropWhile_eq_nil_iff]
  constructor
  · intro h
    have hnil : cs.dropWhile isBlank = [] := by
      cases hdrop : cs.dropWhile isBlank with
      | nil => rfl
      | cons c after =>
        have hc := List.head?_dropWhile_not isBlank cs
        rw [hdrop] at h hc
        exact absurd (h c List.mem_cons_self) (by simpa using hc)
    exact List.dropWhile_eq_nil_iff.mp hnil
  · intro h
    rw [List.dropWhile_eq_nil_iff.mpr h]
    exact fun c hc => nomatch hc

/-- No blank stands at the end of a text that was trimmed. -/
theorem isBlank_of_mem_getLast?_trim : ∀ c ∈ (trim cs).getLast?, isBlank c = false := by
  intro c hc
  obtain ⟨hne, rfl⟩ := List.mem_getLast?_eq_getLast hc
  exact Bool.eq_false_iff.mpr (List.rdropWhile_last_not isBlank (cs.dropWhile isBlank) hne)

/-- Behind a blank in a text that was trimmed comes something else. -/
theorem trim_ne_nil_of_trim {front behind : List Char} {c : Char} (hblank : isBlank c = true)
    (h : trim cs = front ++ c :: behind) : trim behind ≠ [] := by
  intro hnil
  have hbehind : ∀ d ∈ c :: behind, isBlank d = true :=
    List.forall_mem_cons.mpr ⟨hblank, trim_eq_nil_iff.mp hnil⟩
  have hmem := List.getLast_mem (List.cons_ne_nil c behind)
  have hlast : (trim cs).getLast? = some ((c :: behind).getLast (List.cons_ne_nil c behind)) := by
    rw [h, List.getLast?_append_cons, List.getLast?_eq_some_getLast]
  have hfalse := isBlank_of_mem_getLast?_trim _ hlast
  rw [hbehind _ hmem] at hfalse
  cases hfalse

/-- A text with no blank at either end is trimmed. -/
theorem trim_eq_self (hhead : ∀ c ∈ cs.head?, isBlank c = false)
    (hlast : ∀ c ∈ cs.getLast?, isBlank c = false) : trim cs = cs := by
  have hfront : cs.dropWhile isBlank = cs := by
    cases cs with
    | nil => rfl
    | cons c cs =>
      have hc := hhead c rfl
      exact List.dropWhile_cons_of_neg (by rw [hc]; decide)
  have hend : trim cs = (cs.dropWhile isBlank).rdropWhile isBlank := rfl
  rw [hend, hfront, List.rdropWhile_eq_self_iff]
  intro hne
  rw [hlast _ (List.getLast?_eq_some_getLast hne)]
  decide

/-- Blanks around a text make no difference to what is left when it is trimmed. -/
theorem trim_surrounded {front behind : List Char} (hfront : ∀ c ∈ front, isBlank c = true)
    (hbehind : ∀ c ∈ behind, isBlank c = true) : trim (front ++ cs ++ behind) = trim cs := by
  have hend : ∀ ds, trim ds = (ds.dropWhile isBlank).rdropWhile isBlank := fun _ => rfl
  have hstart : (front ++ cs ++ behind).dropWhile isBlank = (cs ++ behind).dropWhile isBlank := by
    rw [List.append_assoc, List.dropWhile_append_of_pos hfront]
  rw [hend, hend, hstart, List.dropWhile_append]
  split
  · next hempty =>
    rw [List.isEmpty_iff.mp hempty, List.dropWhile_eq_nil_iff.mpr hbehind]
  · have hreverse : ∀ c ∈ behind.reverse, isBlank c = true := by simpa using hbehind
    rw [List.rdropWhile, List.reverse_append, List.dropWhile_append_of_pos hreverse]
    rfl

/-! ## The case of letters -/

/-- A small letter in place of a capital is no more a blank than the capital, and no more a
character that is no letter. -/
theorem toLower_spec (c : Char) : isBlank c.toLower = isBlank c ∧
    (∀ sep : Char, sep.isAlpha = false → (c.toLower = sep ↔ c = sep)) ∧
    c.toLower.toLower = c.toLower := by
  have hcapital : ∀ n < 91, 65 ≤ n → (Char.ofNat n).isAlpha = true ∧
      (Char.ofNat n).toLower.isAlpha = true ∧
      isBlank (Char.ofNat n).toLower = isBlank (Char.ofNat n) ∧
      (Char.ofNat n).toLower.toLower = (Char.ofNat n).toLower := by decide
  by_cases hc : c.val ≥ 'A'.val ∧ c.val ≤ 'Z'.val
  · obtain ⟨hfirst, hlast⟩ := hc
    have hrange : 65 ≤ c.toNat ∧ c.toNat < 91 :=
      ⟨UInt32.le_iff_toNat_le.mp hfirst, Nat.lt_succ_of_le (UInt32.le_iff_toNat_le.mp hlast)⟩
    obtain ⟨hletter, hsmall, hblank, htwice⟩ := hcapital c.toNat hrange.2 hrange.1
    rw [Char.ofNat_toNat] at hletter hsmall hblank htwice
    refine ⟨hblank, fun sep hsep => ?_, htwice⟩
    have hne : c ≠ sep ∧ c.toLower ≠ sep := by
      constructor
      · rintro rfl
        simp [hletter] at hsep
      · rintro rfl
        simp [hsmall] at hsep
    simp [hne]
  · have hsame : c.toLower = c := dif_neg hc
    simp [hsame]

theorem lowerAscii_lowerAscii (cs : List Char) : lowerAscii (lowerAscii cs) = lowerAscii cs := by
  simp [lowerAscii, (toLower_spec _).2.2]

theorem trim_lowerAscii (cs : List Char) : trim (lowerAscii cs) = lowerAscii (trim cs) := by
  have hblank : isBlank ∘ Char.toLower = isBlank := funext fun c => (toLower_spec c).1
  simp [trim, trimStart, lowerAscii, List.dropWhile_map, ← List.map_reverse, hblank]

theorem splitOn_lowerAscii (hsep : sep.isAlpha = false) (cs : List Char) :
    splitOn sep (lowerAscii cs) = (splitOn sep cs).map lowerAscii := by
  induction cs with
  | nil => rfl
  | cons c cs ih =>
    have hcons : lowerAscii (c :: cs) = c.toLower :: lowerAscii cs := rfl
    rw [hcons]
    unfold splitOn
    rw [ih]
    cases splitOn sep cs with
    | nil => rfl
    | cons p ps =>
      by_cases hc : c = sep
      · simp [hc, ((toLower_spec sep).2.1 sep hsep).mpr, lowerAscii]
      · have hlower : c.toLower ≠ sep := fun h => hc (((toLower_spec c).2.1 sep hsep).mp h)
        simp [hc, hlower, lowerAscii]

end DeviceGateway.Text
