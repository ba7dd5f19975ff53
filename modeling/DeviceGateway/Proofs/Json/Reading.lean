import DeviceGateway.Proofs.Json.Numerals
import DeviceGateway.Proofs.Json.Strings
import Mathlib.Data.List.DropRight

/-
  The reader and the grammar agree (`parse_eq_ok_iff`). Lists and objects are read by loops that
  differ only in what they refuse a text for, so both are related to one loop over items of any
  kind (`series`), and that to the grammar once: what it reads is spelled so (`series_sound`), and
  what is spelled so it reads, if nothing behind an item could go on with it and the steps suffice
  (`series_complete`). From there the proof is by induction on how deep brackets may stand.
-/

namespace DeviceGateway.Json

variable {bs r s t rest : Bytes} {b : UInt8} {v : Json} {fuel : Nat}

/-! ## Blanks -/

theorem skipSpace_cons (h : isSpace b = false) (r : Bytes) : skipSpace (b :: r) = b :: r := by
  unfold skipSpace
  rw [List.dropWhile_cons, h]
  rfl

theorem gap_skipSpace (bs : Bytes) : Gap bs (skipSpace bs) := by
  induction bs with
  | nil => exact .none
  | cons b bs ih =>
    unfold skipSpace at ih ⊢
    rw [List.dropWhile_cons]
    split
    · next hb => exact .blank hb ih
    · exact .none

theorem Gap.skipSpace_eq (h : Gap bs rest) : skipSpace bs = skipSpace rest := by
  induction h with
  | none => rfl
  | blank hb _ ih =>
    rw [← ih]
    unfold skipSpace
    rw [List.dropWhile_cons, hb]
    rfl

theorem Gap.length_le (h : Gap bs rest) : rest.length ≤ bs.length := by
  induction h with
  | none => exact Nat.le_refl _
  | blank _ _ ih => exact Nat.le_succ_of_le ih

/-- What is behind blanks is found if it does not begin with one itself. -/
theorem Gap.skipSpace_cons (h : Gap bs (b :: rest)) (hb : isSpace b = false) :
    skipSpace bs = b :: rest := by
  rw [h.skipSpace_eq, Json.skipSpace_cons hb]

/-- Could no number go on here? -/
def Over (rest : Bytes) : Prop :=
  digitNext rest = false ∧ letterNext 0x65 rest = false ∧ rest.head? ≠ some 0x2E

theorem Over.endsAt (h : Over rest) (m : Numeral) : m.EndsAt rest :=
  ⟨h.1, fun _ => ⟨h.2.1, fun _ => h.2.2⟩⟩

theorem over_nil : Over [] := ⟨rfl, rfl, nofun⟩

theorem over_cons (hb : b = 0x2C ∨ b = 0x5D ∨ b = 0x7D ∨ isSpace b = true) (r : Bytes) :
    Over (b :: r) := by
  have hspace : isSpace b = true → b = 0x20 ∨ b = 0x0A ∨ b = 0x09 ∨ b = 0x0D := by
    intro h
    unfold isSpace at h
    simpa [or_assoc] using h
  rcases hb with rfl | rfl | rfl | hb
  · exact ⟨rfl, rfl, by simp⟩
  · exact ⟨rfl, rfl, by simp⟩
  · exact ⟨rfl, rfl, by simp⟩
  · rcases hspace hb with rfl | rfl | rfl | rfl
    · exact ⟨rfl, rfl, by simp⟩
    · exact ⟨rfl, rfl, by simp⟩
    · exact ⟨rfl, rfl, by simp⟩
    · exact ⟨rfl, rfl, by simp⟩

/-- Blanks end a number as well as what comes behind them. -/
theorem Gap.over (h : Gap bs rest) (hrest : Over rest) : Over bs := by
  cases h with
  | none => exact hrest
  | blank hb _ => exact over_cons (Or.inr (Or.inr (Or.inr hb))) _

/-! ## Values without brackets -/

theorem word_eq_ok_iff {ws : Bytes} : word ws bs = .ok rest ↔ bs = ws ++ rest := by
  induction ws generalizing bs with
  | nil =>
    constructor
    · intro h
      exact Except.ok.inj h
    · rintro rfl
      rfl
  | cons w ws ih =>
    cases bs with
    | nil => exact ⟨nofun, nofun⟩
    | cons b bs =>
      unfold word
      by_cases hb : b = w
      · rw [if_pos hb, ih, hb, List.cons_append]
        exact ⟨congrArg _, fun h => (List.cons.inj h).2⟩
      · rw [if_neg hb]
        exact ⟨nofun, fun h => absurd (List.cons.inj h).1 hb⟩

/-- A word stands for one value. -/
theorem map_word_eq_ok {ws : Bytes} {u : Json}
    (h : (word ws bs).map (fun t => (u, t)) = .ok (v, rest)) : bs = ws ++ rest ∧ v = u := by
  cases hword : word ws bs with
  | error e =>
    rw [hword] at h
    cases h
  | ok t =>
    rw [hword] at h
    cases h
    exact ⟨word_eq_ok_iff.mp hword, rfl⟩

theorem number_sound {positive : Bool} (h : number positive bs = .ok (v, rest)) :
    ∃ m, Unsigned bs m rest ∧ m.value? = some v ∧ m.negative = !positive := by
  obtain ⟨m, rest', hparts, hend, hsign⟩ := exists_numeral h
  have hvalue := number_numeral hparts hend
  rw [hsign, Bool.not_not, h] at hvalue
  obtain ⟨u, hu, hboth⟩ := Option.map_eq_some_iff.mp hvalue.symm
  obtain ⟨rfl, rfl⟩ := Prod.mk.inj hboth
  exact ⟨m, hparts, hu, hsign⟩

theorem scalar_sound (h : scalar fuel b r = .ok (v, rest)) : Scalar (b :: r) v rest := by
  unfold scalar at h
  split at h
  · next hb =>
    cases hstring : string fuel r with
    | error e =>
      rw [hstring] at h
      cases h
    | ok p =>
      rw [hstring] at h
      cases h
      exact hb ▸ .string (.quote (string_sound hstring))
  split at h
  · next hb =>
    obtain ⟨m, hparts, hvalue, hsign⟩ := number_sound h
    exact hb ▸ .number (.negative hsign hparts) hvalue
  split at h
  · obtain ⟨m, hparts, hvalue, hsign⟩ := number_sound h
    exact .number (.positive hsign hparts) hvalue
  split at h
  · next hb =>
    obtain ⟨rfl, rfl⟩ := map_word_eq_ok h
    exact hb ▸ .null
  split at h
  · next hb =>
    obtain ⟨rfl, rfl⟩ := map_word_eq_ok h
    exact hb ▸ .true
  split at h
  · next hb =>
    obtain ⟨rfl, rfl⟩ := map_word_eq_ok h
    exact hb ▸ .false
  · cases h

/-- A number without its minus begins with a digit. -/
theorem Unsigned.head {m : Numeral} (h : Unsigned bs m rest) :
    ∃ b r, bs = b :: r ∧ isDigitOctet b = true := by
  cases h with
  | @parts ds r _ _ _ _ _ hds =>
    obtain ⟨hne, hall⟩ := hds
    cases ds with
    | nil => exact absurd rfl hne
    | cons b ds => exact ⟨b, ds ++ r, rfl, hall b List.mem_cons_self⟩

theorem Fraction.length_le {f : Option Bytes} (h : Fraction bs f rest) :
    rest.length ≤ bs.length := by
  cases h with
  | none => exact Nat.le_refl _
  | some =>
    rw [List.length_cons, List.length_append]
    omega

theorem Exponent.length_le {e : Option (Bool × Bytes)} (h : Exponent bs e rest) :
    rest.length ≤ bs.length := by
  cases h with
  | none => exact Nat.le_refl _
  | @some _ bs ds _ _ _ hsign =>
    have hle : (ds ++ rest).length ≤ bs.length := by
      cases hsign with
      | none => exact Nat.le_refl _
      | plus | minus => exact Nat.le_succ _
    rw [List.length_append] at hle
    rw [List.length_cons]
    omega

theorem Unsigned.length_lt {m : Numeral} (h : Unsigned bs m rest) : rest.length < bs.length := by
  cases h with
  | parts hds _ hfraction hexponent =>
    have hpos := List.length_pos_iff.mpr hds.1
    have hle := hfraction.length_le
    have hle' := hexponent.length_le
    rw [List.length_append]
    omega

/-- An octet that a value without brackets may begin with. -/
def IsScalarStart (b : UInt8) : Prop :=
  b = 0x6E ∨ b = 0x74 ∨ b = 0x66 ∨ b = 0x22 ∨ b = 0x2D ∨ isDigitOctet b = true

theorem Scalar.head (h : Scalar bs v rest) : ∃ b r, bs = b :: r ∧ IsScalarStart b := by
  cases h with
  | null => exact ⟨_, _, rfl, Or.inl rfl⟩
  | true => exact ⟨_, _, rfl, Or.inr (Or.inl rfl)⟩
  | false => exact ⟨_, _, rfl, Or.inr (Or.inr (Or.inl rfl))⟩
  | string hquoted =>
    cases hquoted with
    | quote => exact ⟨_, _, rfl, Or.inr (Or.inr (Or.inr (Or.inl rfl)))⟩
  | number hnumber =>
    cases hnumber with
    | positive _ hparts =>
      obtain ⟨b, r, hbs, hb⟩ := hparts.head
      exact ⟨b, r, hbs, Or.inr (Or.inr (Or.inr (Or.inr (Or.inr hb))))⟩
    | negative => exact ⟨_, _, rfl, Or.inr (Or.inr (Or.inr (Or.inr (Or.inl rfl))))⟩

theorem IsScalarStart.ne (h : IsScalarStart b) :
    isSpace b = false ∧ b ≠ 0x5B ∧ b ≠ 0x5D ∧ b ≠ 0x7B := by
  have hall : ∀ k < 256, isDigitOctet (UInt8.ofNat k) = true →
      isSpace (UInt8.ofNat k) = false ∧ UInt8.ofNat k ≠ 0x5B ∧ UInt8.ofNat k ≠ 0x5D ∧
        UInt8.ofNat k ≠ 0x7B := by
    decide +kernel
  rcases h with rfl | rfl | rfl | rfl | rfl | hdigit
  · decide
  · decide
  · decide
  · decide
  · decide
  · have hb := hall b.toNat b.toNat_lt
    rw [UInt8.ofNat_toNat] at hb
    exact hb hdigit

theorem Scalar.length_lt (h : Scalar bs v rest) : rest.length < bs.length := by
  cases h with
  | null | true | false =>
    simp only [List.length_cons]
    omega
  | string hquoted =>
    cases hquoted with
    | quote hletters => exact Nat.lt_succ_of_lt hletters.length_lt
  | number hnumber =>
    cases hnumber with
    | positive _ hparts => exact hparts.length_lt
    | negative _ hparts => exact Nat.lt_succ_of_lt hparts.length_lt

/-- What a number spells is read, where it is over. -/
theorem number_complete {m : Numeral} (h : Unsigned bs m rest) (hvalue : m.value? = some v)
    (hrest : Over rest) : number (!m.negative) bs = .ok (v, rest) := by
  rw [← toOption_eq_some_iff, number_numeral h (hrest.endsAt m), hvalue]
  rfl

theorem scalar_complete (h : Scalar (b :: r) v rest) (hrest : Over rest)
    (hfuel : r.length < fuel) : scalar fuel b r = .ok (v, rest) := by
  generalize heq : b :: r = bs at h
  cases h with
  | null | true | false =>
    obtain ⟨rfl, rfl⟩ := List.cons.inj heq
    rfl
  | string hquoted =>
    cases hquoted with
    | quote hletters =>
      obtain ⟨rfl, rfl⟩ := List.cons.inj heq
      unfold scalar
      rw [if_pos rfl, string_complete hletters hfuel]
      rfl
  | number hnumber hvalue =>
    cases hnumber with
    | positive hsign hparts =>
      obtain ⟨b', r', hcons, hdigit⟩ := hparts.head
      have hread := number_complete hparts hvalue hrest
      rw [hcons] at heq
      obtain ⟨rfl, rfl⟩ := List.cons.inj heq
      rw [hsign, hcons] at hread
      have hquote : b ≠ 0x22 := by
        rintro rfl
        cases hdigit
      have hminus : b ≠ 0x2D := by
        rintro rfl
        cases hdigit
      unfold scalar
      rw [if_neg hquote, if_neg hminus, if_pos hdigit]
      exact hread
    | negative hsign hparts =>
      obtain ⟨rfl, rfl⟩ := List.cons.inj heq
      have hread := number_complete hparts hvalue hrest
      rw [hsign] at hread
      unfold scalar
      rw [if_neg (by decide), if_pos rfl]
      exact hread

/-! ## Loops -/

section

variable {α : Type} {R : Bytes → α → Bytes → Prop} {close : UInt8} {limit : Nat}
  {item : Nat → Bytes → Option (α × Bytes)} {done xs : List α}

/-- Items up to the closing bracket; `done` holds the items so far, latest first. -/
def series (item : Nat → Bytes → Option (α × Bytes)) (close : UInt8) :
    (fuel : Nat) → (done : List α) → Bytes → Option (List α × Bytes)
  | 0, _, _ => none
  | n + 1, done, bs =>
    match skipSpace bs with
    | [] => none
    | b :: r =>
      if b = close then some (done.reverse, r)
      else if done.isEmpty then (item n (b :: r)).bind fun p => series item close n [p.1] p.2
      else if b = 0x2C then
        (item n (skipSpace r)).bind fun p => series item close n (p.1 :: done) p.2
      else none

/-- What a loop needs of its items: they are read as they are spelled, while the steps that are left
suffice; none begins with a blank or with the closing bracket; and each takes something. -/
structure ReadsItems (R : Bytes → α → Bytes → Prop) (close : UInt8) (limit : Nat)
    (item : Nat → Bytes → Option (α × Bytes)) : Prop where
  sound : ∀ {n bs x rest}, skipSpace bs = bs → item n bs = some (x, rest) → R bs x rest
  complete : ∀ {n bs x rest}, n < limit → bs.length ≤ n → R bs x rest → Over rest →
    item n bs = some (x, rest)
  head : ∀ {bs x rest}, R bs x rest → ∃ b r, bs = b :: r ∧ isSpace b = false ∧ b ≠ close
  shorter : ∀ {bs x rest}, R bs x rest → rest.length < bs.length

theorem skipSpace_skipSpace (bs : Bytes) : skipSpace (skipSpace bs) = skipSpace bs :=
  List.dropWhile_idempotent isSpace bs

/-- Behind an item, a loop reads what is spelled there. -/
theorem series_further (hitem : ReadsItems R close limit item) (hdone : done ≠ [])
    (h : series item close fuel done bs = some (xs, rest)) :
    ∃ ys, xs = done.reverse ++ ys ∧ Further R close bs ys rest := by
  induction fuel generalizing done bs with
  | zero => cases h
  | succ n ih =>
    have hgap := gap_skipSpace bs
    unfold series at h
    cases hskip : skipSpace bs with
    | nil =>
      rw [hskip] at h
      cases h
    | cons b r =>
      rw [hskip] at h hgap
      dsimp only at h
      split at h
      · next hclose =>
        cases h
        exact ⟨[], (List.append_nil _).symm, .close (hclose ▸ hgap)⟩
      rw [List.isEmpty_eq_false_iff.mpr hdone, if_neg Bool.false_ne_true] at h
      split at h
      · next hcomma =>
        obtain ⟨⟨x, t⟩, hx, hmore⟩ := Option.bind_eq_some_iff.mp h
        obtain ⟨ys, rfl, hys⟩ := ih (List.cons_ne_nil x done) hmore
        refine ⟨x :: ys, ?_, ?_⟩
        · rw [List.reverse_cons, List.append_assoc]
          rfl
        · exact .item (hcomma ▸ hgap) (gap_skipSpace r) (hitem.sound (skipSpace_skipSpace r) hx) hys
      · cases h

/-- A loop reads items that are spelled there. -/
theorem series_sound (hitem : ReadsItems R close limit item)
    (h : series item close fuel [] bs = some (xs, rest)) : Items R close bs xs rest := by
  cases fuel with
  | zero => cases h
  | succ n =>
    have hgap := gap_skipSpace bs
    unfold series at h
    cases hskip : skipSpace bs with
    | nil =>
      rw [hskip] at h
      cases h
    | cons b r =>
      rw [hskip] at h hgap
      dsimp only at h
      split at h
      · next hclose =>
        cases h
        exact .none (hclose ▸ hgap)
      rw [List.isEmpty_nil, if_pos rfl] at h
      obtain ⟨⟨x, t⟩, hx, hmore⟩ := Option.bind_eq_some_iff.mp h
      obtain ⟨ys, rfl, hys⟩ := series_further hitem (List.cons_ne_nil x []) hmore
      have hsame : skipSpace (b :: r) = b :: r := by rw [← hskip, skipSpace_skipSpace]
      exact .some hgap (hitem.sound hsame hx) hys

/-- Behind an item something comes that no number could go on with. -/
theorem Further.over (hclose : close = 0x5D ∨ close = 0x7D) (h : Further R close bs xs rest) :
    Over bs := by
  cases h with
  | close hgap => exact hgap.over (over_cons (Or.inr (hclose.imp_right Or.inl)) rest)
  | item hgap => exact hgap.over (over_cons (Or.inl rfl) _)

theorem Further.length_lt (hitem : ReadsItems R close limit item)
    (h : Further R close bs xs rest) : rest.length < bs.length := by
  induction h with
  | close hgap => exact hgap.length_le
  | item hgap hgap' hx _ ih =>
    have hle := hgap.length_le
    have hle' := hgap'.length_le
    have hlt := hitem.shorter hx
    rw [List.length_cons] at hle
    omega

theorem Items.length_lt (hitem : ReadsItems R close limit item) (h : Items R close bs xs rest) :
    rest.length < bs.length := by
  cases h with
  | none hgap => exact hgap.length_le
  | some hgap hx hmore =>
    have hle := hgap.length_le
    have hlt := hitem.shorter hx
    have hlt' := hmore.length_lt hitem
    omega

/-- What is spelled behind an item is read by a loop that has steps enough. -/
theorem further_complete (hitem : ReadsItems R close limit item)
    (hclose : close = 0x5D ∨ close = 0x7D) (h : Further R close bs xs rest) (hdone : done ≠ [])
    (hfuel : bs.length < fuel) (hlimit : fuel ≤ limit) :
    series item close fuel done bs = some (done.reverse ++ xs, rest) := by
  have hspace : isSpace close = false := by
    rcases hclose with rfl | rfl <;> rfl
  have hcomma : 0x2C ≠ close := by
    rcases hclose with rfl | rfl <;> decide
  induction h generalizing done fuel with
  | close hgap =>
    obtain ⟨fuel, rfl⟩ : ∃ k, fuel = k + 1 := ⟨fuel - 1, by omega⟩
    unfold series
    rw [hgap.skipSpace_cons hspace]
    dsimp only
    rw [if_pos rfl, List.append_nil]
  | @item bs r s t _ x xs hgap hgap' hx hmore ih =>
    obtain ⟨fuel, rfl⟩ : ∃ k, fuel = k + 1 := ⟨fuel - 1, by omega⟩
    have hle := hgap.length_le
    have hle' := hgap'.length_le
    have hlt := hitem.shorter hx
    rw [List.length_cons] at hle
    obtain ⟨b, s', rfl, hb, -⟩ := hitem.head hx
    have hread := hitem.complete (n := fuel) (by omega) (by omega) hx (hmore.over hclose)
    unfold series
    rw [hgap.skipSpace_cons rfl]
    dsimp only
    rw [if_neg hcomma, List.isEmpty_eq_false_iff.mpr hdone, if_neg Bool.false_ne_true, if_pos rfl,
      hgap'.skipSpace_cons hb, hread, Option.bind_some,
      ih (List.cons_ne_nil x done) (by omega) (by omega), List.reverse_cons, List.append_assoc]
    rfl

/-- Items that are spelled somewhere are read by a loop that has steps enough. -/
theorem series_complete (hitem : ReadsItems R close limit item)
    (hclose : close = 0x5D ∨ close = 0x7D) (h : Items R close bs xs rest)
    (hfuel : bs.length < fuel) (hlimit : fuel ≤ limit) :
    series item close fuel [] bs = some (xs, rest) := by
  have hspace : isSpace close = false := by
    rcases hclose with rfl | rfl <;> rfl
  obtain ⟨fuel, rfl⟩ : ∃ k, fuel = k + 1 := ⟨fuel - 1, by omega⟩
  unfold series
  cases h with
  | none hgap =>
    rw [hgap.skipSpace_cons hspace]
    exact if_pos rfl
  | some hgap hx hmore =>
    have hle := hgap.length_le
    have hlt := hitem.shorter hx
    have hroom := Nat.lt_of_lt_of_le hlt (Nat.le_trans hle (Nat.le_of_lt_succ hfuel))
    obtain ⟨b, r', rfl, hb, hne⟩ := hitem.head hx
    have hread := hitem.complete (n := fuel) (by omega) (by omega) hx (hmore.over hclose)
    rw [hgap.skipSpace_cons hb]
    dsimp only
    rw [if_neg hne, List.isEmpty_nil, if_pos rfl, hread, Option.bind_some]
    exact further_complete hitem hclose hmore (List.cons_ne_nil _ []) hroom (by omega)

end

/-! ## Values -/

variable {read : Bytes → Read Json} {R : Bytes → Json → Bytes → Prop} {limit : Nat}

/-- What lists and objects need of the values in them: they are read as they are spelled, with any
blanks before them; none begins with a blank, a closing bracket or a comma; and each takes
something. -/
structure Reads (R : Bytes → Json → Bytes → Prop) (limit : Nat) (read : Bytes → Read Json) :
    Prop where
  sound : ∀ {bs v rest}, read bs = .ok (v, rest) → ∃ r, Gap bs r ∧ R r v rest
  complete : ∀ {bs r v rest}, bs.length < limit → Gap bs r → R r v rest → Over rest →
    read bs = .ok (v, rest)
  head : ∀ {bs v rest}, R bs v rest → ∃ b r, bs = b :: r ∧ isSpace b = false ∧ b ≠ 0x5D
  shorter : ∀ {bs v rest}, R bs v rest → rest.length < bs.length

/-- Octets that begin with no blank have no blanks before them. -/
theorem Gap.eq_of_skipSpace (h : Gap bs r) (hbs : skipSpace bs = bs) : bs = r := by
  cases h with
  | none => rfl
  | @blank b bs _ hb _ =>
    have hlength := congrArg List.length hbs
    have hle : (skipSpace bs).length ≤ bs.length := (gap_skipSpace bs).length_le
    unfold skipSpace at hlength hle
    rw [List.dropWhile_cons, if_pos hb, List.length_cons] at hlength
    omega

theorem Reads.items (h : Reads R limit read) :
    ReadsItems R 0x5D limit fun _ bs => (read bs).toOption where
  sound := by
    intro n bs x rest hbs hread
    obtain ⟨r, hgap, hx⟩ := h.sound (toOption_eq_some_iff.mp hread)
    rw [hgap.eq_of_skipSpace hbs]
    exact hx
  complete := by
    intro n bs x rest hn hbs hx hrest
    exact toOption_eq_some_iff.mpr (h.complete (by omega) .none hx hrest)
  head := h.head
  shorter := h.shorter

/-- Nothing is read where there is nothing but blanks and a closing bracket. -/
theorem Reads.read_close (h : Reads R limit read) (r : Bytes) :
    (read (0x5D :: r)).toOption = none := by
  cases hread : read (0x5D :: r) with
  | error e => rfl
  | ok p =>
    exfalso
    obtain ⟨r', hgap, hv⟩ := h.sound hread
    obtain rfl := hgap.eq_of_skipSpace (skipSpace_cons rfl r)
    obtain ⟨b, s, hcons, -, hne⟩ := h.head hv
    exact hne (List.cons.inj hcons).1.symm

theorem Reads.read_nil (h : Reads R limit read) : (read []).toOption = none := by
  cases hread : read [] with
  | error e => rfl
  | ok p =>
    exfalso
    obtain ⟨r', hgap, hv⟩ := h.sound hread
    obtain rfl := hgap.eq_of_skipSpace rfl
    obtain ⟨b, s, hcons, -⟩ := h.head hv
    cases hcons

/-- The items of a list are read by a loop. -/
theorem items_toOption (h : Reads R limit read) (fuel : Nat) (done : List Json) (bs : Bytes) :
    (items read fuel done bs).toOption =
      series (fun _ bs => (read bs).toOption) 0x5D fuel done bs := by
  induction fuel generalizing done bs with
  | zero => rfl
  | succ n ih =>
    unfold items series
    cases skipSpace bs with
    | nil => rfl
    | cons b r =>
      dsimp only
      by_cases hclose : b = 0x5D
      · rw [if_pos hclose, if_pos hclose]
        rfl
      rw [if_neg hclose, if_neg hclose]
      cases done.isEmpty with
      | true =>
        rw [if_pos rfl, if_pos rfl]
        cases read (b :: r) with
        | error e => rfl
        | ok p => exact ih [p.1] p.2
      | false =>
        rw [if_neg Bool.false_ne_true, if_neg Bool.false_ne_true]
        by_cases hcomma : b = 0x2C
        · rw [if_pos hcomma, if_pos hcomma]
          cases skipSpace r with
          | nil =>
            rw [h.read_nil]
            rfl
          | cons c s =>
            dsimp only
            by_cases hend : c = 0x5D
            · rw [if_pos hend, hend, h.read_close s]
              rfl
            · rw [if_neg hend]
              cases read (c :: s) with
              | error e => rfl
              | ok p => exact ih (p.1 :: done) p.2
        · rw [if_neg hcomma, if_neg hcomma]
          rfl

/-- A field where a key comes next. -/
def member? (read : Bytes → Read Json) (fuel : Nat) (bs : Bytes) :
    Option ((String × Json) × Bytes) :=
  if bs.head? = some 0x22 then (field read fuel bs).toOption else none

/-- The fields of an object are read by a loop. -/
theorem fields_toOption (read : Bytes → Read Json) (fuel : Nat) (done : List (String × Json))
    (bs : Bytes) : (fields read fuel done bs).toOption =
      (series (member? read) 0x7D fuel done bs).map
        fun p => (.obj (Fields.setAll p.1 []), p.2) := by
  induction fuel generalizing done bs with
  | zero => rfl
  | succ n ih =>
    have hnone : ∀ {c : UInt8} {s : Bytes}, c ≠ 0x22 → member? read n (c :: s) = none :=
      fun hc => if_neg fun hhead => hc (Option.some.inj hhead)
    have hsome : ∀ {s : Bytes}, member? read n (0x22 :: s) = (field read n (0x22 :: s)).toOption :=
      if_pos rfl
    unfold fields series
    cases skipSpace bs with
    | nil => rfl
    | cons b r =>
      dsimp only
      by_cases hclose : b = 0x7D
      · rw [if_pos hclose, if_pos hclose, Option.map_some, ← Fields.ofLatest_reverse,
          List.reverse_reverse]
        rfl
      rw [if_neg hclose, if_neg hclose]
      cases done.isEmpty with
      | true =>
        rw [if_pos rfl, if_pos rfl]
        by_cases hquote : b = 0x22
        · subst hquote
          rw [if_pos rfl, hsome]
          cases field read n (0x22 :: r) with
          | error e => rfl
          | ok p => exact ih [p.1] p.2
        · rw [if_neg hquote, hnone hquote]
          rfl
      | false =>
        rw [if_neg Bool.false_ne_true, if_neg Bool.false_ne_true]
        by_cases hcomma : b = 0x2C
        · rw [if_pos hcomma, if_pos hcomma]
          cases skipSpace r with
          | nil => rfl
          | cons c s =>
            dsimp only
            by_cases hquote : c = 0x22
            · subst hquote
              rw [if_pos rfl, hsome]
              cases field read n (0x22 :: s) with
              | error e => rfl
              | ok p => exact ih (p.1 :: done) p.2
            · rw [if_neg hquote, hnone hquote]
              split <;> rfl
        · rw [if_neg hcomma, if_neg hcomma]
          rfl

/-- A key, a colon and a value are read as they are spelled. -/
theorem Reads.members (h : Reads R limit read) :
    ReadsItems (Member R) 0x7D limit (member? read) where
  sound := by
    intro n bs x rest _ hread
    unfold member? at hread
    split at hread
    · next hhead =>
      obtain ⟨r, rfl⟩ := List.head?_eq_some_iff.mp hhead
      obtain ⟨⟨key, s⟩, hkey, hbehind⟩ := bind_eq_ok.mp (toOption_eq_some_iff.mp hread)
      have hgap := gap_skipSpace s
      dsimp only at hbehind
      cases hskip : skipSpace s with
      | nil =>
        rw [hskip] at hbehind
        cases hbehind
      | cons b t =>
        rw [hskip] at hbehind hgap
        dsimp only at hbehind
        split at hbehind
        · next hcolon =>
          obtain ⟨⟨v, u⟩, hvalue, hpair⟩ := bind_eq_ok.mp hbehind
          cases hpair
          obtain ⟨t', hgap', hv⟩ := h.sound hvalue
          exact .pair (.quote (string_sound hkey)) (hcolon ▸ hgap) hgap' hv
        · cases hbehind
    · cases hread
  complete := by
    intro n bs x rest hn hbs hx hrest
    obtain ⟨hkey, hgap, hgap', hv⟩ := hx
    obtain ⟨hletters⟩ := hkey
    have hlt := hletters.length_lt
    have hle := hgap.length_le
    rw [List.length_cons] at hbs hle
    have hread := h.complete (by omega) hgap' hv hrest
    have hstring := string_complete hletters (show _ < n by omega)
    unfold member?
    rw [List.head?_cons, if_pos rfl, toOption_eq_some_iff]
    unfold field
    rw [List.drop_succ_cons, List.drop_zero, hstring]
    dsimp only [bind, Except.bind]
    rw [hgap.skipSpace_cons rfl]
    dsimp only
    rw [if_pos rfl, hread]
    rfl
  head := by
    intro bs x rest hx
    obtain ⟨hkey, -⟩ := hx
    obtain ⟨-⟩ := hkey
    exact ⟨0x22, _, rfl, rfl, by decide⟩
  shorter := by
    intro bs x rest hx
    obtain ⟨hkey, hgap, hgap', hv⟩ := hx
    obtain ⟨hletters⟩ := hkey
    have hlt := hletters.length_lt
    have hle := hgap.length_le
    have hle' := hgap'.length_le
    have hlt' := h.shorter hv
    rw [List.length_cons] at hle ⊢
    omega

theorem reads_scalar (fuel : Nat) : Reads (Value 0) fuel (value fuel 0) where
  sound := by
    intro bs v rest h
    have hgap := gap_skipSpace bs
    unfold value at h
    cases hskip : skipSpace bs with
    | nil =>
      rw [hskip] at h
      cases h
    | cons b r =>
      rw [hskip] at h hgap
      dsimp only at h
      split at h
      · cases h
      · exact ⟨b :: r, hgap, scalar_sound h⟩
  complete := by
    intro bs r v rest hfuel hgap hv hrest
    have hscalar : Scalar r v rest := hv
    have hle := hgap.length_le
    obtain ⟨b, r, rfl, hstart⟩ := hscalar.head
    obtain ⟨hspace, hlist, -, hobject⟩ := hstart.ne
    have hbracket : ¬ (decide (b = 0x5B) || decide (b = 0x7B)) = true := by
      simp [hlist, hobject]
    rw [List.length_cons] at hle
    unfold value
    rw [hgap.skipSpace_cons hspace]
    dsimp only
    rw [if_neg hbracket]
    exact scalar_complete hscalar hrest (by omega)
  head := by
    intro bs v rest hv
    obtain ⟨b, r, rfl, hstart⟩ := Scalar.head hv
    exact ⟨b, r, rfl, hstart.ne.1, hstart.ne.2.2.1⟩
  shorter := Scalar.length_lt

/-- A list or an object of values that are read is read. -/
theorem Reads.compound_complete {d : Nat} (h : Reads (Value d) fuel (value fuel d))
    (hbs : bs.length < fuel) (hgap : Gap bs r) (hv : Compound (Value d) r v rest) :
    value fuel (d + 1) bs = .ok (v, rest) := by
  have hle := hgap.length_le
  unfold value
  cases hv with
  | list hitems =>
    rw [List.length_cons] at hle
    have hseries := series_complete h.items (Or.inl rfl) hitems (show _ < fuel by omega)
      (Nat.le_refl fuel)
    rw [← items_toOption h, toOption_eq_some_iff] at hseries
    rw [hgap.skipSpace_cons rfl]
    dsimp only
    rw [if_pos rfl, hseries]
    rfl
  | @object inner _ _ hpairs =>
    rw [List.length_cons] at hle
    have hseries := series_complete h.members (Or.inr rfl) hpairs (show _ < fuel by omega)
      (Nat.le_refl fuel)
    have hfields := fields_toOption (value fuel d) fuel [] inner
    rw [hseries, Option.map_some, toOption_eq_some_iff] at hfields
    rw [hgap.skipSpace_cons rfl]
    dsimp only
    rw [if_neg (by decide), if_pos rfl]
    exact hfields

/-- Brackets around values that are read are read. -/
theorem Reads.deeper {d : Nat} (h : Reads (Value d) fuel (value fuel d)) :
    Reads (Value (d + 1)) fuel (value fuel (d + 1)) where
  sound := by
    intro bs v rest hread
    have hgap := gap_skipSpace bs
    unfold value at hread
    cases hskip : skipSpace bs with
    | nil =>
      rw [hskip] at hread
      cases hread
    | cons b r =>
      rw [hskip] at hread hgap
      dsimp only at hread
      refine ⟨b :: r, hgap, ?_⟩
      split at hread
      · next hlist =>
        cases hitems : Json.items (value fuel d) fuel [] r with
        | error e =>
          rw [hitems] at hread
          cases hread
        | ok p =>
          have hseries := items_toOption h fuel [] r
          rw [hitems] at hread hseries
          cases hread
          exact hlist ▸ Or.inr (.list (series_sound h.items hseries.symm))
      split at hread
      · next hobject =>
        have hseries := fields_toOption (value fuel d) fuel [] r
        rw [hread] at hseries
        obtain ⟨p, hpairs, hboth⟩ := Option.map_eq_some_iff.mp hseries.symm
        obtain ⟨rfl, rfl⟩ := Prod.mk.inj hboth
        exact hobject ▸ Or.inr (.object (series_sound h.members hpairs))
      · exact Or.inl (scalar_sound hread)
  complete := by
    intro bs r v rest hbs hgap hv hrest
    rcases hv with hscalar | hcompound
    · have hle := hgap.length_le
      obtain ⟨b, r, rfl, hstart⟩ := hscalar.head
      obtain ⟨hspace, hlist, -, hobject⟩ := hstart.ne
      rw [List.length_cons] at hle
      unfold value
      rw [hgap.skipSpace_cons hspace]
      dsimp only
      rw [if_neg hlist, if_neg hobject]
      exact scalar_complete hscalar hrest (by omega)
    · exact h.compound_complete hbs hgap hcompound
  head := by
    intro bs v rest hv
    rcases hv with hscalar | hcompound
    · obtain ⟨b, r, rfl, hstart⟩ := hscalar.head
      exact ⟨b, r, rfl, hstart.ne.1, hstart.ne.2.2.1⟩
    · cases hcompound with
      | list => exact ⟨0x5B, _, rfl, rfl, by decide⟩
      | object => exact ⟨0x7B, _, rfl, rfl, by decide⟩
  shorter := by
    intro bs v rest hv
    rcases hv with hscalar | hcompound
    · exact hscalar.length_lt
    · cases hcompound with
      | list hitems => exact Nat.lt_succ_of_lt (hitems.length_lt h.items)
      | object hpairs => exact Nat.lt_succ_of_lt (hpairs.length_lt h.members)

/-- Values are read as they are spelled, however deep their brackets may stand. -/
theorem reads_value (fuel d : Nat) : Reads (Value d) fuel (value fuel d) := by
  induction d with
  | zero => exact reads_scalar fuel
  | succ d ih => exact ih.deeper

/-- A text is read as the value that it spells, if it spells one. -/
theorem parse_eq_ok_iff : parse bs = .ok v ↔ Spells bs v := by
  have hreads := reads_value (bs.length + 1) maxDepth
  constructor
  · intro h
    unfold parse at h
    split at h
    · next u s hread =>
      obtain ⟨r, hgap, hu⟩ := hreads.sound hread
      have hgap' := gap_skipSpace s
      cases hskip : skipSpace s with
      | nil =>
        rw [hskip] at h hgap'
        cases h
        exact .text hgap hu hgap'
      | cons b t =>
        rw [hskip] at h
        cases h
    · cases h
  · rintro ⟨hgap, hv, hgap'⟩
    have hread := hreads.complete (Nat.lt_succ_self _) hgap hv (hgap'.over over_nil)
    have hend := hgap'.skipSpace_eq
    unfold parse
    rw [hread]
    dsimp only
    rw [hend]
    rfl

end DeviceGateway.Json
