import DeviceGateway.Text.Utf8

/-
  Reading back what was written as UTF-8. The octets of one character leave the reader with that
  character read and nothing under way (`feed_char`), so a text's octets read as the text
  (`decode_utf8`). The other way, the octets that were read of a character under way are the start
  of its own (`Begun`, `push_sound`), so octets that read as a text are the text's
  (`decode?_eq_some_iff`).
-/

namespace DeviceGateway.Utf8

variable {chars : List Char} {p : Pending} {a k : Nat}

theorem feed_append (r : Reader) (bs more : Bytes) :
    r.feed (bs ++ more) = (r.feed bs).bind fun r' => r'.feed more := by
  induction bs generalizing r with
  | nil => rfl
  | cons b bs ih =>
    rw [List.cons_append, Reader.feed, Reader.feed]
    cases r.push b with
    | none => rfl
    | some r' => exact ih r'

/-! ## First octets -/

theorem begin_two (h : a < 32) (hlow : 2 ≤ a) :
    begin? (UInt8.ofNat (a + 192)) = some { owed := 1, code := a } := by
  have hall : ∀ a < 32, 2 ≤ a → begin? (UInt8.ofNat (a + 192)) = some { owed := 1, code := a } := by
    decide
  exact hall a h hlow

/-- The octet behind the first one keeps out what two octets write, and the surrogates. -/
theorem begin_three (h : a < 16) : begin? (UInt8.ofNat (a + 224)) = some {
    owed := 2
    low := if a = 0 then 0xA0 else 0x80
    high := if a = 13 then 0x9F else 0xBF
    code := a } := by
  have hall : ∀ a < 16, begin? (UInt8.ofNat (a + 224)) = some {
      owed := 2
      low := if a = 0 then 0xA0 else 0x80
      high := if a = 13 then 0x9F else 0xBF
      code := a } := by
    decide
  exact hall a h

/-- The octet behind the first one keeps out what three octets write, and what is no character. -/
theorem begin_four (h : a < 5) : begin? (UInt8.ofNat (a + 240)) = some {
    owed := 3
    low := if a = 0 then 0x90 else 0x80
    high := if a = 4 then 0x8F else 0xBF
    code := a } := by
  have hall : ∀ a < 5, begin? (UInt8.ofNat (a + 240)) = some {
      owed := 3
      low := if a = 0 then 0x90 else 0x80
      high := if a = 4 then 0x8F else 0xBF
      code := a } := by
    decide
  exact hall a h

theorem not_ascii (hlow : 128 ≤ a) (hhigh : a < 256) : ¬ UInt8.ofNat a < 0x80 := by
  rw [UInt8.lt_iff_toNat_lt, UInt8.toNat_ofNat']
  have h : (0x80 : UInt8).toNat = 128 := rfl
  omega

theorem push_begin (hlow : 128 ≤ a) (hhigh : a < 256) (hbegin : begin? (UInt8.ofNat a) = some p) :
    Reader.push { chars } (UInt8.ofNat a) = some { chars, pending := some p } := by
  unfold Reader.push
  rw [if_neg (not_ascii hlow hhigh), hbegin]
  rfl

/-! ## Further octets -/

theorem push_more (hk : k < 64) (hlow : p.low.toNat ≤ k + 128) (hhigh : k + 128 ≤ p.high.toNat) :
    Reader.push { chars, pending := some p } (UInt8.ofNat (k + 128)) =
      if p.owed ≤ 1 then some { chars := Char.ofNat (p.code * 64 + k) :: chars }
      else some { chars, pending := some { owed := p.owed - 1, code := p.code * 64 + k } } := by
  have hnat : (UInt8.ofNat (k + 128)).toNat = k + 128 := by
    rw [UInt8.toNat_ofNat']
    omega
  have hrange : (p.low ≤ UInt8.ofNat (k + 128) && UInt8.ofNat (k + 128) ≤ p.high) = true := by
    rw [Bool.and_eq_true_iff, decide_eq_true_iff, decide_eq_true_iff, UInt8.le_iff_toNat_le,
      UInt8.le_iff_toNat_le, hnat]
    exact ⟨hlow, hhigh⟩
  unfold Reader.push
  dsimp only
  rw [if_pos hrange, hnat, Nat.add_sub_cancel]

theorem push_last (hk : k < 64) (howed : p.owed = 1) (hlow : p.low.toNat ≤ k + 128)
    (hhigh : k + 128 ≤ p.high.toNat) :
    Reader.push { chars, pending := some p } (UInt8.ofNat (k + 128)) =
      some { chars := Char.ofNat (p.code * 64 + k) :: chars } := by
  rw [push_more hk hlow hhigh, if_pos (Nat.le_of_eq howed)]

theorem push_between (hk : k < 64) (howed : 1 < p.owed) (hlow : p.low.toNat ≤ k + 128)
    (hhigh : k + 128 ≤ p.high.toNat) :
    Reader.push { chars, pending := some p } (UInt8.ofNat (k + 128)) =
      some { chars, pending := some { owed := p.owed - 1, code := p.code * 64 + k } } := by
  rw [push_more hk hlow hhigh, if_neg (Nat.not_le.mpr howed)]

/-! ## Characters -/

theorem feed_cons {r r' : Reader} {b : UInt8} (h : r.push b = some r') (bs : Bytes) :
    r.feed (b :: bs) = r'.feed bs := by
  conv => lhs; unfold Reader.feed
  rw [h]

variable {v : Nat}

theorem feed_one (hhigh : v < 128) :
    Reader.feed { chars } [UInt8.ofNat v] = some { chars := Char.ofNat v :: chars } := by
  have hnat : (UInt8.ofNat v).toNat = v := by
    rw [UInt8.toNat_ofNat']
    omega
  have hascii : UInt8.ofNat v < 0x80 := by
    rw [UInt8.lt_iff_toNat_lt, hnat]
    exact hhigh
  refine feed_cons ?_ []
  unfold Reader.push
  rw [if_pos hascii, hnat]

theorem feed_two (hlow : 128 ≤ v) (hhigh : v < 0x800) :
    Reader.feed { chars } [UInt8.ofNat (v / 64 % 32 + 192), UInt8.ofNat (v % 64 + 128)] =
      some { chars := Char.ofNat v :: chars } := by
  have hbegin := begin_two (a := v / 64 % 32) (by omega) (by omega)
  rw [feed_cons (push_begin (by omega) (by omega) hbegin),
    feed_cons (push_last (by omega) rfl (Nat.le_add_left 128 _) (by show _ ≤ 191; omega))]
  have hv : v / 64 % 32 * 64 + v % 64 = v := by omega
  show some _ = _
  rw [hv]

theorem feed_three (hlow : 0x800 ≤ v) (hhigh : v < 0x10000) (hvalid : v < 0xD800 ∨ 0xDFFF < v) :
    Reader.feed { chars } [UInt8.ofNat (v / 4096 % 16 + 224), UInt8.ofNat (v / 64 % 64 + 128),
      UInt8.ofNat (v % 64 + 128)] = some { chars := Char.ofNat v :: chars } := by
  have hbegin := begin_three (a := v / 4096 % 16) (by omega)
  rw [feed_cons (push_begin (by omega) (by omega) hbegin),
    feed_cons (push_between (by omega) (show 1 < 2 by decide) ?_ ?_),
    feed_cons (push_last (by omega) rfl (Nat.le_add_left 128 _) (by show _ ≤ 191; omega))]
  · have hv : (v / 4096 % 16 * 64 + v / 64 % 64) * 64 + v % 64 = v := by omega
    show some _ = _
    rw [hv]
  · dsimp only
    split
    · show 160 ≤ _
      omega
    · exact Nat.le_add_left 128 _
  · dsimp only
    split
    · show _ ≤ 159
      omega
    · show _ ≤ 191
      omega

theorem feed_four (hlow : 0x10000 ≤ v) (hhigh : v < 0x110000) :
    Reader.feed { chars } [UInt8.ofNat (v / 262144 % 8 + 240), UInt8.ofNat (v / 4096 % 64 + 128),
      UInt8.ofNat (v / 64 % 64 + 128), UInt8.ofNat (v % 64 + 128)] =
      some { chars := Char.ofNat v :: chars } := by
  have hbegin := begin_four (a := v / 262144 % 8) (by omega)
  rw [feed_cons (push_begin (by omega) (by omega) hbegin),
    feed_cons (push_between (by omega) (show 1 < 3 by decide) ?_ ?_),
    feed_cons (push_between (by omega) (show 1 < 2 by decide) (Nat.le_add_left 128 _)
      (by show _ ≤ 191; omega)),
    feed_cons (push_last (by omega) rfl (Nat.le_add_left 128 _) (by show _ ≤ 191; omega))]
  · have hv : ((v / 262144 % 8 * 64 + v / 4096 % 64) * 64 + v / 64 % 64) * 64 + v % 64 = v := by
      omega
    show some _ = _
    rw [hv]
  · dsimp only
    split
    · show 144 ≤ _
      omega
    · exact Nat.le_add_left 128 _
  · dsimp only
    split
    · show _ ≤ 143
      omega
    · show _ ≤ 191
      omega

theorem feed_char (chars : List Char) (c : Char) :
    Reader.feed { chars } (String.utf8EncodeChar c) = some { chars := c :: chars } := by
  have hvalid : c.val.toNat < 0xD800 ∨ 0xDFFF < c.val.toNat ∧ c.val.toNat < 0x110000 := c.valid
  have hchar : c = Char.ofNat c.val.toNat := (Char.ofNat_toNat c).symm
  conv => rhs; rw [hchar]
  unfold String.utf8EncodeChar
  dsimp only
  split
  · exact feed_one (by omega)
  · split
    · exact feed_two (by omega) (by omega)
    · split
      · exact feed_three (by omega) (by omega) (by omega)
      · exact feed_four (by omega) (by omega)

/-! ## Texts -/

theorem feed_chars (done cs : List Char) :
    Reader.feed { chars := done } (cs.flatMap String.utf8EncodeChar) =
      some { chars := cs.reverse ++ done } := by
  induction cs generalizing done with
  | nil => rfl
  | cons c cs ih =>
    rw [List.flatMap_cons, feed_append, feed_char, Option.bind_some, ih, List.reverse_cons,
      List.append_assoc]
    rfl

/-- The octets of a text read as the text. -/
theorem decode_utf8 (s : String) : decode? (utf8 s) = some s := by
  unfold decode? utf8
  rw [feed_chars, Option.bind_some, List.append_nil]
  show some (String.ofList s.toList.reverse.reverse) = some s
  rw [List.reverse_reverse, String.ofList_toList]

/-! ## What a reader has read -/

/-- The octets of a character that is under way. -/
inductive Begun : Pending → Bytes → Prop
  | two {a : Nat} : 2 ≤ a → a < 32 → Begun { owed := 1, code := a } [UInt8.ofNat (a + 192)]
  | three {a : Nat} : a < 16 → Begun {
      owed := 2
      low := if a = 0 then 0xA0 else 0x80
      high := if a = 13 then 0x9F else 0xBF
      code := a } [UInt8.ofNat (a + 224)]
  | threeOn {v : Nat} : 0x20 ≤ v → v < 0x400 → v < 0x360 ∨ 0x380 ≤ v →
      Begun { owed := 1, code := v } [UInt8.ofNat (v / 64 + 224), UInt8.ofNat (v % 64 + 128)]
  | four {a : Nat} : a < 5 → Begun {
      owed := 3
      low := if a = 0 then 0x90 else 0x80
      high := if a = 4 then 0x8F else 0xBF
      code := a } [UInt8.ofNat (a + 240)]
  | fourOn {v : Nat} : 0x10 ≤ v → v < 0x110 →
      Begun { owed := 2, code := v } [UInt8.ofNat (v / 64 + 240), UInt8.ofNat (v % 64 + 128)]
  | fourFar {v : Nat} : 0x400 ≤ v → v < 0x4400 →
      Begun { owed := 1, code := v } [UInt8.ofNat (v / 4096 + 240), UInt8.ofNat (v / 64 % 64 + 128),
        UInt8.ofNat (v % 64 + 128)]

/-- The octets that were read of what is under way, if anything is. -/
def Held : Option Pending → Bytes → Prop
  | none, start => start = []
  | some p, start => Begun p start

theorem begin_sound {b : UInt8} (h : begin? b = some p) : Begun p [b] := by
  have hall : ∀ k < 256, begin? (UInt8.ofNat k) =
      if k < 194 then none
      else if k < 224 then some { owed := 1, code := k - 192 }
      else if k < 240 then some {
        owed := 2
        low := if k - 224 = 0 then 0xA0 else 0x80
        high := if k - 224 = 13 then 0x9F else 0xBF
        code := k - 224 }
      else if k < 245 then some {
        owed := 3
        low := if k - 240 = 0 then 0x90 else 0x80
        high := if k - 240 = 4 then 0x8F else 0xBF
        code := k - 240 }
      else none := by
    decide +kernel
  have hb : b = UInt8.ofNat b.toNat := (UInt8.ofNat_toNat).symm
  rw [hb, hall b.toNat b.toNat_lt] at h
  rw [hb]
  generalize b.toNat = k at h
  split at h
  · cases h
  split at h
  · have hk : k = k - 192 + 192 := by omega
    obtain rfl := Option.some.inj h
    conv => rhs; rw [hk]
    exact Begun.two (by omega) (by omega)
  split at h
  · have hk : k = k - 224 + 224 := by omega
    obtain rfl := Option.some.inj h
    conv => rhs; rw [hk]
    exact Begun.three (by omega)
  split at h
  · have hk : k = k - 240 + 240 := by omega
    obtain rfl := Option.some.inj h
    conv => rhs; rw [hk]
    exact Begun.four (by omega)
  · cases h

theorem val_ofNat (h : v.isValidChar) : (Char.ofNat v).val.toNat = v := by
  unfold Char.ofNat
  rw [dif_pos h]
  rfl

theorem encode_one (hhigh : v < 0x80) :
    String.utf8EncodeChar (Char.ofNat v) = [UInt8.ofNat v] := by
  unfold String.utf8EncodeChar
  rw [val_ofNat (by unfold Nat.isValidChar; omega)]
  exact if_pos (Nat.le_of_lt_succ hhigh)

theorem encode_two (hlow : 0x80 ≤ v) (hhigh : v < 0x800) :
    String.utf8EncodeChar (Char.ofNat v) =
      [UInt8.ofNat (v / 64 + 192), UInt8.ofNat (v % 64 + 128)] := by
  have hdiv : v / 64 % 32 = v / 64 := by omega
  unfold String.utf8EncodeChar
  rw [val_ofNat (by unfold Nat.isValidChar; omega)]
  dsimp only
  rw [if_neg (by omega), if_pos (by omega), hdiv]

theorem encode_three (hlow : 0x800 ≤ v) (hhigh : v < 0x10000) (hvalid : v < 0xD800 ∨ 0xDFFF < v) :
    String.utf8EncodeChar (Char.ofNat v) =
      [UInt8.ofNat (v / 4096 + 224), UInt8.ofNat (v / 64 % 64 + 128),
        UInt8.ofNat (v % 64 + 128)] := by
  have hdiv : v / 4096 % 16 = v / 4096 := by omega
  unfold String.utf8EncodeChar
  rw [val_ofNat (by unfold Nat.isValidChar; omega)]
  dsimp only
  rw [if_neg (by omega), if_neg (by omega), if_pos (by omega), hdiv]

theorem encode_four (hlow : 0x10000 ≤ v) (hhigh : v < 0x110000) :
    String.utf8EncodeChar (Char.ofNat v) =
      [UInt8.ofNat (v / 262144 + 240), UInt8.ofNat (v / 4096 % 64 + 128),
        UInt8.ofNat (v / 64 % 64 + 128), UInt8.ofNat (v % 64 + 128)] := by
  have hdiv : v / 262144 % 8 = v / 262144 := by omega
  unfold String.utf8EncodeChar
  rw [val_ofNat (by unfold Nat.isValidChar; omega)]
  dsimp only
  rw [if_neg (by omega), if_neg (by omega), if_neg (by omega), hdiv]

theorem Begun.low_high {start : Bytes} (hp : Begun p start) :
    128 ≤ p.low.toNat ∧ p.high.toNat ≤ 191 := by
  cases hp with
  | two | threeOn | fourOn | fourFar => exact ⟨Nat.le_refl 128, Nat.le_refl 191⟩
  | three | four =>
    dsimp only
    constructor <;> split <;> decide

/-- One more octet ends a character under way or takes it further. -/
theorem Begun.push {start : Bytes} (hp : Begun p start) (hk : k < 64)
    (hlow : p.low.toNat ≤ k + 128) (hhigh : k + 128 ≤ p.high.toNat) :
    if p.owed ≤ 1 then
      String.utf8EncodeChar (Char.ofNat (p.code * 64 + k)) = start ++ [UInt8.ofNat (k + 128)]
    else Begun { owed := p.owed - 1, code := p.code * 64 + k }
      (start ++ [UInt8.ofNat (k + 128)]) := by
  have hdiv : ∀ v, (v * 64 + k) / 64 = v := by omega
  have hmod : ∀ v, (v * 64 + k) % 64 = k := by omega
  cases hp with
  | two ha ha' =>
    rw [if_pos (Nat.le_refl 1)]
    dsimp only
    rw [encode_two (by omega) (by omega), hdiv, hmod]
    rfl
  | @three a ha =>
    have hleast : 0x20 ≤ a * 64 + k := by
      dsimp only at hlow
      split at hlow
      · have h : (0xA0 : UInt8).toNat = 160 := rfl
        omega
      · omega
    have hvalid : a * 64 + k < 0x360 ∨ 0x380 ≤ a * 64 + k := by
      dsimp only at hhigh
      split at hhigh
      · have h : (0x9F : UInt8).toNat = 159 := rfl
        omega
      · omega
    have hnext := Begun.threeOn hleast (by omega) hvalid
    rw [hdiv, hmod] at hnext
    rw [if_neg (show ¬ 2 ≤ 1 by decide)]
    exact hnext
  | @threeOn v hleast hmost hvalid =>
    have hdiv' : (v * 64 + k) / 4096 = v / 64 := by omega
    rw [if_pos (Nat.le_refl 1)]
    dsimp only
    rw [encode_three (by omega) (by omega) (by omega), hdiv', hdiv, hmod]
    rfl
  | @four a ha =>
    have hleast : 0x10 ≤ a * 64 + k := by
      dsimp only at hlow
      split at hlow
      · have h : (0x90 : UInt8).toNat = 144 := rfl
        omega
      · omega
    have hmost : a * 64 + k < 0x110 := by
      dsimp only at hhigh
      split at hhigh
      · have h : (0x8F : UInt8).toNat = 143 := rfl
        omega
      · omega
    have hnext := Begun.fourOn hleast hmost
    rw [hdiv, hmod] at hnext
    rw [if_neg (show ¬ 3 ≤ 1 by decide)]
    exact hnext
  | @fourOn v hleast hmost =>
    have hdiv' : (v * 64 + k) / 4096 = v / 64 := by omega
    have hnext := Begun.fourFar (v := v * 64 + k) (by omega) (by omega)
    rw [hdiv', hdiv, hmod] at hnext
    rw [if_neg (show ¬ 2 ≤ 1 by decide)]
    exact hnext
  | @fourFar v hleast hmost =>
    have hfar : (v * 64 + k) / 262144 = v / 4096 := by omega
    have hdiv' : (v * 64 + k) / 4096 = v / 64 := by omega
    rw [if_pos (Nat.le_refl 1)]
    dsimp only
    rw [encode_four (by omega) (by omega), hfar, hdiv', hdiv, hmod]
    rfl

/-- An octet that the reader takes ends a character or leaves one under way. -/
theorem push_sound {r r' : Reader} {start : Bytes} (hheld : Held r.pending start) {b : UInt8}
    (h : r.push b = some r') :
    (∃ c, r' = { chars := c :: r.chars } ∧ String.utf8EncodeChar c = start ++ [b]) ∨
      ∃ p, r' = { chars := r.chars, pending := some p } ∧ Begun p (start ++ [b]) := by
  obtain ⟨chars, pending⟩ := r
  unfold Reader.push at h
  cases pending with
  | none =>
    obtain rfl : start = [] := hheld
    dsimp only at h
    split at h
    case isTrue hascii =>
      refine Or.inl ⟨Char.ofNat b.toNat, (Option.some.inj h).symm, ?_⟩
      rw [encode_one (UInt8.lt_iff_toNat_lt.mp hascii), UInt8.ofNat_toNat]
      rfl
    case isFalse =>
      obtain ⟨p, hp, rfl⟩ := Option.map_eq_some_iff.mp h
      exact Or.inr ⟨p, rfl, begin_sound hp⟩
  | some p =>
    have hp : Begun p start := hheld
    obtain ⟨hleast, hmost⟩ := hp.low_high
    dsimp only at h
    split at h
    case isFalse => cases h
    case isTrue hrange =>
      rw [Bool.and_eq_true_iff, decide_eq_true_iff, decide_eq_true_iff, UInt8.le_iff_toNat_le,
        UInt8.le_iff_toNat_le] at hrange
      obtain ⟨k, hk⟩ : ∃ k, b.toNat = k + 128 := ⟨b.toNat - 128, by omega⟩
      have hb : b = UInt8.ofNat (k + 128) := by rw [← hk, UInt8.ofNat_toNat]
      have hnext := hp.push (k := k) (by omega) (by omega) (by omega)
      rw [hk, Nat.add_sub_cancel] at h
      rw [hb]
      split at h
      case isTrue howed =>
        rw [if_pos howed] at hnext
        exact Or.inl ⟨_, (Option.some.inj h).symm, hnext⟩
      case isFalse howed =>
        rw [if_neg howed] at hnext
        exact Or.inr ⟨_, (Option.some.inj h).symm, hnext⟩

/-- A reader that ends with nothing under way has read just its further characters. -/
theorem feed_sound {r r' : Reader} {bs : Bytes} (start : Bytes) (h : r.feed bs = some r')
    (hheld : Held r.pending start) (hdone : r'.pending = none) :
    ∃ cs : List Char, r'.chars = cs.reverse ++ r.chars ∧
      start ++ bs = cs.flatMap String.utf8EncodeChar := by
  induction bs generalizing r start with
  | nil =>
    obtain rfl := Option.some.inj h
    rw [hdone] at hheld
    obtain rfl : start = [] := hheld
    exact ⟨[], rfl, rfl⟩
  | cons b bs ih =>
    unfold Reader.feed at h
    cases hpush : r.push b with
    | none =>
      rw [hpush] at h
      cases h
    | some next =>
      rw [hpush] at h
      rcases push_sound hheld hpush with ⟨c, rfl, hchar⟩ | ⟨p, rfl, hbegun⟩
      · obtain ⟨cs, hchars, hbs⟩ := ih [] h rfl
        refine ⟨c :: cs, ?_, ?_⟩
        · rw [hchars, List.reverse_cons, List.append_assoc]
          rfl
        · rw [List.flatMap_cons, hchar, ← hbs, List.append_assoc]
          rfl
      · obtain ⟨cs, hchars, hbs⟩ := ih (start ++ [b]) h hbegun
        refine ⟨cs, hchars, ?_⟩
        rw [← hbs, List.append_assoc]
        rfl

/-- Octets that read as a text are the text's own. -/
theorem decode?_eq_some_iff {bs : Bytes} {s : String} : decode? bs = some s ↔ bs = utf8 s := by
  constructor
  · intro h
    obtain ⟨⟨chars, pending⟩, hfeed, htext⟩ := Option.bind_eq_some_iff.mp h
    cases pending with
    | some p => cases htext
    | none =>
      obtain ⟨cs, hchars, hbs⟩ := feed_sound [] hfeed rfl rfl
      obtain rfl : chars = cs.reverse ++ [] := hchars
      obtain rfl := Option.some.inj htext
      unfold utf8
      rw [List.append_nil, List.reverse_reverse, String.toList_ofList]
      exact hbs
  · rintro rfl
    exact decode_utf8 s

end DeviceGateway.Utf8

namespace DeviceGateway

theorem utf8_append (s t : String) : utf8 (s ++ t) = utf8 s ++ utf8 t := by
  unfold utf8
  rw [String.toList_append, List.flatMap_append]

theorem utf8_inj {s t : String} (h : utf8 s = utf8 t) : s = t := by
  have hs := Utf8.decode_utf8 s
  rw [h, Utf8.decode_utf8] at hs
  exact (Option.some.inj hs).symm

/-- Octets below 128 are the UTF-8 of their characters. -/
theorem utf8_asciiText {bs : Bytes} (h : ∀ b ∈ bs, b.toNat < 128) : utf8 (asciiText bs) = bs := by
  unfold utf8 asciiText
  rw [String.toList_ofList]
  induction bs with
  | nil => rfl
  | cons b bs ih =>
    obtain ⟨hb, hbs⟩ := List.forall_mem_cons.mp h
    rw [List.map_cons, List.flatMap_cons, Utf8.encode_one hb, UInt8.ofNat_toNat, ih hbs]
    rfl

end DeviceGateway
