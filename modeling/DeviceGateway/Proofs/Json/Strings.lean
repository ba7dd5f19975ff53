import DeviceGateway.Proofs.Json.Grammar
import DeviceGateway.Proofs.Json.Octets
import DeviceGateway.Proofs.Outcome

/-
  Strings are read as the grammar has them (`string_sound`, `string_complete`). What the reader has
  of a character under way is the start of its octets, so that what a string spells from there on
  is that start with the octets behind it (`stringFrom_sound`); and no string is read once it is
  broken.
-/

namespace DeviceGateway.Json

variable {bs mid rest : Bytes} {c : Char} {n high : Nat}

/-! ## Escapes -/

theorem hexEscape_eq_ok_iff : hexEscape bs = .ok (n, rest) ↔ Hex bs n rest := by
  constructor
  · intro h
    unfold hexEscape at h
    split at h
    · next a b c d r =>
      cases hread : ofHexDigits? [a, b, c, d] with
      | none =>
        rw [hread] at h
        cases h
      | some m =>
        rw [hread] at h
        cases h
        exact .digits hread
    · cases h
  · rintro ⟨hread⟩
    unfold hexEscape
    dsimp only
    rw [hread]

theorem lowSurrogate_eq_ok_iff : lowSurrogate high bs = .ok (c, rest) ↔
    ∃ mid low, bs = 0x5C :: 0x75 :: mid ∧ Hex mid low rest ∧ IsLow low ∧
      c = Char.ofNat ((high - 0xD800) * 0x400 + (low - 0xDC00) + 0x10000) := by
  constructor
  · intro h
    unfold lowSurrogate at h
    split at h
    · cases h
    · split at h
      · cases h
      · next hslash =>
        split at h
        · cases h
        · split at h
          · cases h
          · next hu =>
            obtain ⟨⟨low, t⟩, hhex, hchar⟩ := bind_eq_ok.mp h
            dsimp only at hchar
            split at hchar
            · next hlow =>
              obtain ⟨hc, rfl⟩ := Prod.mk.inj (Except.ok.inj hchar)
              simp only [Bool.and_eq_true, decide_eq_true_eq] at hlow
              rw [not_not] at hslash hu
              exact ⟨_, low, by rw [hslash, hu], hexEscape_eq_ok_iff.mp hhex, hlow, hc.symm⟩
            · cases hchar
  · rintro ⟨mid, low, rfl, hhex, hlow, hc⟩
    have hlow' : (decide (0xDC00 ≤ low) && decide (low ≤ 0xDFFF)) = true := by
      rw [decide_eq_true hlow.1, decide_eq_true hlow.2, Bool.and_self]
    unfold lowSurrogate
    dsimp only
    rw [if_neg (by decide), if_neg (by decide), bind_eq_ok]
    refine ⟨(low, rest), hexEscape_eq_ok_iff.mpr hhex, ?_⟩
    dsimp only
    rw [hlow', if_pos rfl, hc]
    rfl

/-- What is read as an escape spells it. -/
theorem escaped_sound (h : escaped bs = .ok (c, rest)) : Escape bs c rest := by
  cases bs with
  | nil => cases h
  | cons b r =>
    unfold escaped at h
    dsimp only at h
    split at h
    · next hself =>
      cases h
      simp only [Bool.or_eq_true, decide_eq_true_eq] at hself
      rcases hself with (rfl | rfl) | rfl
      · exact .quote
      · exact .backslash
      · exact .slash
    split at h
    · next hb =>
      cases h
      exact hb ▸ .backspace
    split at h
    · next hb =>
      cases h
      exact hb ▸ .formFeed
    split at h
    · next hb =>
      cases h
      exact hb ▸ .newline
    split at h
    · next hb =>
      cases h
      exact hb ▸ .carriageReturn
    split at h
    · next hb =>
      cases h
      exact hb ▸ .tab
    split at h
    · next hb =>
      obtain ⟨⟨n, s⟩, hhex, hchar⟩ := bind_eq_ok.mp h
      rw [hexEscape_eq_ok_iff] at hhex
      dsimp only at hchar
      split at hchar
      · cases hchar
      next hlow =>
      simp only [Bool.and_eq_true, decide_eq_true_eq] at hlow
      split at hchar
      · next hhigh =>
        simp only [Bool.and_eq_true, decide_eq_true_eq] at hhigh
        obtain ⟨mid, low, rfl, hhex', hlow', hc⟩ := lowSurrogate_eq_ok_iff.mp hchar
        rw [hc]
        exact hb ▸ .codes hhex hhigh hhex' hlow'
      · next hhigh =>
        simp only [Bool.and_eq_true, decide_eq_true_eq] at hhigh
        cases hchar
        exact hb ▸ .code hhex hhigh hlow
    · cases h

/-- What an escape spells is read. -/
theorem escaped_complete (h : Escape bs c rest) : escaped bs = .ok (c, rest) := by
  cases h with
  | quote | backslash | slash | backspace | formFeed | newline | carriageReturn | tab => rfl
  | @code bs _ n hhex hhigh hlow =>
    have hlow' : (decide (0xDC00 ≤ n) && decide (n ≤ 0xDFFF)) = false := by
      rw [Bool.eq_false_iff]
      simpa [IsLow] using hlow
    have hhigh' : (decide (0xD800 ≤ n) && decide (n ≤ 0xDBFF)) = false := by
      rw [Bool.eq_false_iff]
      simpa [IsHigh] using hhigh
    refine (bind_eq_ok (x := hexEscape bs)).mpr ⟨(n, rest), hexEscape_eq_ok_iff.mpr hhex, ?_⟩
    dsimp only
    rw [hlow', hhigh']
    rfl
  | @codes bs mid _ high low hhex hhigh hhex' hlow =>
    have hlow' : (decide (0xDC00 ≤ high) && decide (high ≤ 0xDFFF)) = false := by
      rw [decide_eq_false (by unfold IsHigh at hhigh; omega), Bool.false_and]
    have hhigh' : (decide (0xD800 ≤ high) && decide (high ≤ 0xDBFF)) = true := by
      rw [decide_eq_true hhigh.1, decide_eq_true hhigh.2, Bool.and_self]
    refine (bind_eq_ok (x := hexEscape bs)).mpr ⟨(high, _), hexEscape_eq_ok_iff.mpr hhex, ?_⟩
    dsimp only
    rw [hlow', hhigh', if_neg Bool.false_ne_true, if_pos rfl]
    exact lowSurrogate_eq_ok_iff.mpr ⟨mid, low, rfl, hhex', hlow, rfl⟩

theorem Escape.length_lt (h : Escape bs c rest) : rest.length < bs.length := by
  cases h with
  | quote | backslash | slash | backspace | formFeed | newline | carriageReturn | tab =>
    exact Nat.lt_succ_self _
  | code hhex =>
    obtain ⟨-⟩ := hhex
    simp only [List.length_cons]
    omega
  | codes hhex _ hhex' =>
    obtain ⟨-⟩ := hhex
    obtain ⟨-⟩ := hhex'
    simp only [List.length_cons]
    omega

/-! ## Strings -/

variable {whole start : Bytes} {cs : List Char} {fuel : Nat} {scan : Scan} {s : String}

/-- Is the octet part of a string, neither its end nor the start of an escape? -/
def isInner (b : UInt8) : Prop := b ≠ 0x22 ∧ b ≠ 0x5C ∧ ¬ b < 0x20

theorem isInner_ofNat {k : Nat} (hlow : 32 ≤ k) (hhigh : k < 256) (hquote : k ≠ 0x22)
    (hslash : k ≠ 0x5C) : isInner (UInt8.ofNat k) := by
  have hnat : (UInt8.ofNat k).toNat = k := by
    rw [UInt8.toNat_ofNat']
    omega
  refine ⟨fun h => hquote ?_, fun h => hslash ?_, fun h => ?_⟩
  · rw [← hnat, h]
    rfl
  · rw [← hnat, h]
    rfl
  · rw [UInt8.lt_iff_toNat_lt, hnat] at h
    exact Nat.not_lt.mpr hlow h

/-- The octets of a character that needs no escape. -/
theorem isInner_octets (hquote : c ≠ '"') (hslash : c ≠ '\\') (hctrl : ¬ c.toNat < 0x20) :
    ∀ b ∈ String.utf8EncodeChar c, isInner b := by
  by_cases hascii : c.toNat < 128
  · have hquote' : c.toNat ≠ 0x22 := fun h => hquote (Char.toNat_inj.mp h)
    have hslash' : c.toNat ≠ 0x5C := fun h => hslash (Char.toNat_inj.mp h)
    rw [utf8EncodeChar_ascii hascii]
    intro b hb
    rw [List.mem_singleton.mp hb]
    exact isInner_ofNat (Nat.not_lt.mp hctrl) (by omega) hquote' hslash'
  · have hlow : ¬ c.val.toNat ≤ 127 := fun h => hascii (Nat.lt_succ_of_le h)
    have hhigh : ∀ k, 128 ≤ k → k < 256 → isInner (UInt8.ofNat k) := fun k hk hk' =>
      isInner_ofNat (by omega) hk' (by omega) (by omega)
    unfold String.utf8EncodeChar
    simp only [if_neg hlow]
    split
    · simp only [List.forall_mem_cons]
      exact ⟨hhigh _ (by omega) (by omega), hhigh _ (by omega) (by omega), List.forall_mem_nil _⟩
    · split
      · simp only [List.forall_mem_cons]
        exact ⟨hhigh _ (by omega) (by omega), hhigh _ (by omega) (by omega),
          hhigh _ (by omega) (by omega), List.forall_mem_nil _⟩
      · simp only [List.forall_mem_cons]
        exact ⟨hhigh _ (by omega) (by omega), hhigh _ (by omega) (by omega),
          hhigh _ (by omega) (by omega), hhigh _ (by omega) (by omega), List.forall_mem_nil _⟩

/-- Octets that mean nothing to the reader of strings go to the reader of characters. -/
theorem stringFrom_inner {bs : Bytes} (hinner : ∀ b ∈ bs, isInner b) (scan : Scan)
    {reader : Utf8.Reader} (hbroken : scan.broken = false)
    (hfeed : scan.reader.feed bs = some reader) (whole : Bytes) :
    ∃ unsettled, ∀ fuel more, stringFrom whole (bs.length + fuel) scan (bs ++ more) =
      stringFrom whole fuel { reader, unsettled } more := by
  induction bs generalizing scan with
  | nil =>
    obtain ⟨reader', unsettled, broken⟩ := scan
    cases hbroken
    cases hfeed
    refine ⟨unsettled, fun fuel more => ?_⟩
    rw [List.length_nil, Nat.zero_add, List.nil_append]
  | cons b bs ih =>
    obtain ⟨⟨hquote, hslash, hctrl⟩, hbs⟩ := List.forall_mem_cons.mp hinner
    rw [Utf8.Reader.feed] at hfeed
    cases hpush : scan.reader.push b with
    | none =>
      rw [hpush] at hfeed
      cases hfeed
    | some reader' =>
      rw [hpush] at hfeed
      have hoctet : (scan.octet b).broken = false ∧ (scan.octet b).reader = reader' := by
        unfold Scan.octet
        rw [hbroken, if_neg Bool.false_ne_true, hpush]
        exact ⟨rfl, rfl⟩
      obtain ⟨unsettled, hrest⟩ := ih hbs (scan.octet b) hoctet.1 (hoctet.2 ▸ hfeed)
      refine ⟨unsettled, fun fuel more => ?_⟩
      rw [← hrest, List.length_cons, Nat.add_right_comm]
      conv => lhs; unfold stringFrom
      simp only [List.cons_append, if_neg hquote, if_neg hslash, if_neg hctrl]

theorem Letters.length_lt (h : Letters bs cs rest) : rest.length < bs.length := by
  induction h with
  | close => exact Nat.lt_succ_self _
  | plain _ _ _ _ ih =>
    rw [List.length_append]
    omega
  | escaped hescape _ ih =>
    have hlt := hescape.length_lt
    rw [List.length_cons]
    omega

/-- A string that is broken is not read, whatever else comes. -/
theorem stringFrom_broken (hbroken : scan.broken = true) (whole : Bytes) (fuel : Nat) (bs : Bytes) :
    ∀ p, stringFrom whole fuel scan bs ≠ .ok p := by
  induction fuel generalizing scan bs with
  | zero => exact fun p h => nomatch h
  | succ n ih =>
    intro p h
    cases bs with
    | nil => cases h
    | cons b r =>
      unfold stringFrom at h
      split at h
      · unfold Scan.finish at h
        rw [hbroken] at h
        cases h
      split at h
      · cases hescaped : escaped r with
        | error e =>
          rw [hescaped] at h
          cases h
        | ok q =>
          rw [hescaped] at h
          refine ih ?_ q.2 p h
          unfold Scan.char
          rw [hbroken, Bool.true_or, if_pos rfl]
      split at h
      · cases h
      · refine ih ?_ r p h
        unfold Scan.octet
        rw [if_pos hbroken]
        exact hbroken

/-- A character whose last octet is part of a string needs no escape there. -/
theorem plain_of_inner {b : UInt8} (hchar : String.utf8EncodeChar c = start ++ [b])
    (hinner : isInner b) : c ≠ '"' ∧ c ≠ '\\' ∧ 0x20 ≤ c.toNat := by
  obtain ⟨hquote, hslash, hctrl⟩ := hinner
  have honly : ∀ k, String.utf8EncodeChar c = [k] → b = k := by
    intro k hk
    rw [hchar] at hk
    cases start with
    | nil => exact (List.cons.inj hk).1
    | cons a start => simp at hk
  refine ⟨?_, ?_, ?_⟩
  · rintro rfl
    exact hquote (honly 0x22 rfl)
  · rintro rfl
    exact hslash (honly 0x5C rfl)
  · refine Nat.not_lt.mp fun hlt => hctrl ?_
    rw [honly _ (utf8EncodeChar_ascii (by omega)), UInt8.lt_iff_toNat_lt, UInt8.toNat_ofNat']
    have hblank : (0x20 : UInt8).toNat = 32 := rfl
    omega

/-- An escaped character comes between characters, or it breaks the string. -/
theorem Scan.char_sound (hbroken : scan.broken = false)
    (hheld : Utf8.Held scan.reader.pending start) (c : Char) : (scan.char c).broken = true ∨
      (scan.char c).broken = false ∧ start = [] ∧
        (scan.char c).reader = { chars := c :: scan.reader.chars } := by
  obtain ⟨⟨chars, pending⟩, unsettled, broken⟩ := scan
  obtain rfl : broken = false := hbroken
  cases pending with
  | none => exact Or.inr ⟨rfl, hheld, rfl⟩
  | some p => exact Or.inl rfl

/-- One more octet ends a character or goes on with one, or it breaks the string. -/
theorem Scan.octet_sound (hbroken : scan.broken = false)
    (hheld : Utf8.Held scan.reader.pending start) (b : UInt8) : (scan.octet b).broken = true ∨
      (scan.octet b).broken = false ∧
        ((∃ c, (scan.octet b).reader = { chars := c :: scan.reader.chars } ∧
            String.utf8EncodeChar c = start ++ [b]) ∨
          (scan.octet b).reader.chars = scan.reader.chars ∧
            Utf8.Held (scan.octet b).reader.pending (start ++ [b])) := by
  unfold Scan.octet
  rw [hbroken, if_neg Bool.false_ne_true]
  cases hpush : scan.reader.push b with
  | none => exact Or.inl rfl
  | some reader =>
    refine Or.inr ⟨rfl, ?_⟩
    rcases Utf8.push_sound hheld hpush with ⟨c, rfl, hchar⟩ | ⟨p, rfl, hbegun⟩
    · exact Or.inl ⟨c, rfl, hchar⟩
    · exact Or.inr ⟨rfl, hbegun⟩

/-- What is read of a string from a scan on is spelled by what the scan has of a character under way
and the octets behind it. -/
theorem stringFrom_sound (start : Bytes) (h : stringFrom whole fuel scan bs = .ok (s, rest))
    (hbroken : scan.broken = false) (hheld : Utf8.Held scan.reader.pending start) :
    ∃ cs, Letters (start ++ bs) cs rest ∧ s = String.ofList (scan.reader.chars.reverse ++ cs) := by
  induction fuel generalizing scan start bs with
  | zero => cases h
  | succ n ih =>
    cases bs with
    | nil => cases h
    | cons b r =>
      unfold stringFrom at h
      split at h
      case isTrue hquote =>
        obtain ⟨⟨chars, pending⟩, unsettled, broken⟩ := scan
        obtain rfl : broken = false := hbroken
        cases pending with
        | some p => cases h
        | none =>
          obtain rfl : start = [] := hheld
          cases h
          exact ⟨[], hquote ▸ .close, by rw [List.append_nil]⟩
      case isFalse hquote =>
        split at h
        case isTrue hslash =>
          cases hescaped : escaped r with
          | error e =>
            rw [hescaped] at h
            cases h
          | ok q =>
            rw [hescaped] at h
            rcases Scan.char_sound hbroken hheld q.1 with hchar | ⟨hchar, rfl, hreader⟩
            · exact absurd h (stringFrom_broken hchar whole n q.2 _)
            · obtain ⟨cs, hcs, hs⟩ := ih [] h hchar (by rw [hreader]; rfl)
              refine ⟨q.1 :: cs, hslash ▸ .escaped (escaped_sound hescaped) hcs, ?_⟩
              rw [hs, hreader, List.reverse_cons, List.append_assoc]
              rfl
        case isFalse hslash =>
          split at h
          case isTrue => cases h
          case isFalse hctrl =>
            rcases Scan.octet_sound hbroken hheld b with
              hoctet | ⟨hoctet, ⟨c, hreader, hchar⟩ | ⟨hchars, hheld'⟩⟩
            · exact absurd h (stringFrom_broken hoctet whole n r _)
            · obtain ⟨cs, hcs, hs⟩ := ih [] h hoctet (by rw [hreader]; rfl)
              obtain ⟨hc, hc', hc''⟩ := plain_of_inner hchar ⟨hquote, hslash, hctrl⟩
              refine ⟨c :: cs, ?_, ?_⟩
              · rw [List.append_cons, ← hchar]
                exact .plain hc hc' hc'' hcs
              · rw [hs, hreader, List.reverse_cons, List.append_assoc]
                rfl
            · obtain ⟨cs, hcs, hs⟩ := ih (start ++ [b]) h hoctet hheld'
              rw [← List.append_cons] at hcs
              exact ⟨cs, hcs, hs.trans (by rw [hchars])⟩

/-- What a string spells is read. -/
theorem stringFrom_complete (h : Letters bs cs rest) (whole : Bytes) (chars : List Char)
    (unsettled : Nat) (hfuel : bs.length < fuel) :
    stringFrom whole fuel { reader := { chars }, unsettled } bs =
      .ok (String.ofList (chars.reverse ++ cs), rest) := by
  induction h generalizing chars unsettled fuel with
  | close =>
    obtain ⟨fuel, rfl⟩ : ∃ k, fuel = k + 1 := ⟨fuel - 1, by omega⟩
    rw [List.append_nil]
    rfl
  | @plain c bs _ cs hquote hslash hctrl _ ih =>
    rw [List.length_append] at hfuel
    obtain ⟨unsettled', hstring⟩ := stringFrom_inner
      (isInner_octets hquote hslash (Nat.not_lt.mpr hctrl))
      { reader := { chars }, unsettled } rfl (Utf8.feed_char chars c) whole
    obtain ⟨k, rfl⟩ := Nat.exists_eq_add_of_le (Nat.le_of_lt (Nat.lt_of_le_of_lt
      (Nat.le_add_right _ _) hfuel))
    rw [hstring, ih (c :: chars) unsettled' (by omega), List.reverse_cons, List.append_assoc]
    rfl
  | @escaped c bs mid _ cs hescape _ ih =>
    have hlt := hescape.length_lt
    rw [List.length_cons] at hfuel
    obtain ⟨k, rfl⟩ : ∃ k, fuel = k + 1 := ⟨fuel - 1, by omega⟩
    conv => lhs; unfold stringFrom
    rw [if_neg (by decide), if_pos rfl, escaped_complete hescape]
    dsimp only
    have hchar : Scan.char { reader := { chars }, unsettled } c =
        { reader := { chars := c :: chars }, unsettled } := rfl
    rw [hchar, ih (c :: chars) unsettled (by omega), List.reverse_cons, List.append_assoc]
    rfl

/-- Strings are read as they are spelled. -/
theorem string_sound (h : string fuel bs = .ok (s, rest)) : Letters bs s.toList rest := by
  obtain ⟨cs, hcs, rfl⟩ := stringFrom_sound [] h rfl rfl
  rw [String.toList_ofList]
  exact hcs

theorem string_complete (h : Letters bs s.toList rest) (hfuel : bs.length < fuel) :
    string fuel bs = .ok (s, rest) := by
  have hread := stringFrom_complete h bs [] 0 hfuel
  rw [List.reverse_nil, List.nil_append, String.ofList_toList] at hread
  exact hread

end DeviceGateway.Json
