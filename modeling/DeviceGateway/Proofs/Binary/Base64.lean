import DeviceGateway.Binary.Base64

/-
  Base64 both ways. Six-bit values and their characters are the same thing (`value?_eq_some_iff`),
  four of them are three octets, and what is left at the end is padded; so a text is read just when
  it is what writing gives, and it reads as what was written (`decode?_eq_some_iff`).
-/

namespace DeviceGateway.Base64

variable {a b c d : UInt8} {n x y z w : Nat}

/-! ## Characters -/

theorem value?_letter (h : n < 64) : value? (letter n) = some n := by
  have hall : ∀ n < 64, value? (letter n) = some n := by decide
  exact hall n h

theorem letter_ne_pad (h : n < 64) : letter n ≠ pad := by
  have hall : ∀ n < 64, letter n ≠ pad := by decide
  exact hall n h

theorem value?_eq_some_iff : value? b = some n ↔ n < 64 ∧ b = letter n := by
  constructor
  · intro h
    have hall : ∀ k < 256, ((value? (UInt8.ofNat k)).all fun n =>
        decide (n < 64) && decide (UInt8.ofNat k = letter n)) = true := by
      decide +kernel
    have hb := hall b.toNat b.toNat_lt
    rw [UInt8.ofNat_toNat, h] at hb
    simpa using hb
  · rintro ⟨hn, rfl⟩
    exact value?_letter hn

/-! ## Groups -/

/-- The three octets of four six-bit values. -/
def first (x y : Nat) : UInt8 := UInt8.ofNat (x * 4 + y / 16)

def second (y z : Nat) : UInt8 := UInt8.ofNat (y % 16 * 16 + z / 4)

def third (z w : Nat) : UInt8 := UInt8.ofNat (z % 4 * 64 + w)

theorem toNat_first (hx : x < 64) (hy : y < 64) : (first x y).toNat = x * 4 + y / 16 := by
  unfold first
  rw [UInt8.toNat_ofNat']
  omega

theorem toNat_second (hz : z < 64) : (second y z).toNat = y % 16 * 16 + z / 4 := by
  unfold second
  rw [UInt8.toNat_ofNat']
  omega

theorem toNat_third (hw : w < 64) : (third z w).toNat = z % 4 * 64 + w := by
  unfold third
  rw [UInt8.toNat_ofNat']
  omega

/-- An octet begins a group, with any four bits of the next octet behind its own. -/
theorem exists_first (a : UInt8) {more : Nat} (hmore : more < 16) :
    ∃ x y, x < 64 ∧ y < 64 ∧ y % 16 = more ∧ a = first x y := by
  have ha := a.toNat_lt
  refine ⟨a.toNat / 4, a.toNat % 4 * 16 + more, by omega, by omega, by omega, ?_⟩
  rw [← UInt8.toNat_inj, toNat_first (by omega) (by omega)]
  omega

/-- An octet goes on with a group that leaves its upper bits to it, with any two bits of the next
octet behind its own. -/
theorem exists_second (b : UInt8) {more : Nat} (hmore : more < 4) (hy : y % 16 = b.toNat / 16) :
    ∃ z, z < 64 ∧ z % 4 = more ∧ b = second y z := by
  have hb := b.toNat_lt
  refine ⟨b.toNat % 16 * 4 + more, by omega, by omega, ?_⟩
  rw [← UInt8.toNat_inj, toNat_second (by omega)]
  omega

theorem exists_third (c : UInt8) (hz : z % 4 = c.toNat / 64) : ∃ w, w < 64 ∧ c = third z w := by
  have hc := c.toNat_lt
  refine ⟨c.toNat % 64, by omega, ?_⟩
  rw [← UInt8.toNat_inj, toNat_third (by omega)]
  omega

/-- Three octets are written as their four six-bit values. -/
theorem encode_group (hx : x < 64) (hy : y < 64) (hz : z < 64) (hw : w < 64) (rest : Bytes) :
    encode (first x y :: second y z :: third z w :: rest) =
      letter x :: letter y :: letter z :: letter w :: encode rest := by
  have hn : (first x y).toNat * 65536 + (second y z).toNat * 256 + (third z w).toNat =
      ((x * 64 + y) * 64 + z) * 64 + w := by
    rw [toNat_first hx hy, toNat_second hz, toNat_third hw]
    omega
  have hx' : (((x * 64 + y) * 64 + z) * 64 + w) / 262144 = x := by omega
  have hy' : (((x * 64 + y) * 64 + z) * 64 + w) / 4096 % 64 = y := by omega
  have hz' : (((x * 64 + y) * 64 + z) * 64 + w) / 64 % 64 = z := by omega
  have hw' : (((x * 64 + y) * 64 + z) * 64 + w) % 64 = w := by omega
  rw [encode, hn, hx', hy', hz', hw']

theorem encode_pair (hx : x < 64) (hy : y < 64) (hz : z < 64) (hbits : z % 4 = 0) :
    encode [first x y, second y z] = [letter x, letter y, letter z, pad] := by
  have hn : (first x y).toNat * 256 + (second y z).toNat = (x * 64 + y) * 16 + z / 4 := by
    rw [toNat_first hx hy, toNat_second hz]
    omega
  have hx' : ((x * 64 + y) * 16 + z / 4) / 1024 = x := by omega
  have hy' : ((x * 64 + y) * 16 + z / 4) / 16 % 64 = y := by omega
  have hz' : ((x * 64 + y) * 16 + z / 4) % 16 * 4 = z := by omega
  rw [encode, hn, hx', hy', hz']

theorem encode_single (hx : x < 64) (hy : y < 64) (hbits : y % 16 = 0) :
    encode [first x y] = [letter x, letter y, pad, pad] := by
  have hx' : (x * 4 + y / 16) / 4 = x := by omega
  have hy' : (x * 4 + y / 16) % 4 * 16 = y := by omega
  rw [encode, toNat_first hx hy, hx', hy']

/-- Four characters read as three octets, whatever comes behind them. -/
theorem decode?_group (hx : x < 64) (hy : y < 64) (hz : z < 64) (hw : w < 64) (r : Bytes) :
    decode? (letter x :: letter y :: letter z :: letter w :: r) =
      (decode? r).map fun rest => first x y :: second y z :: third z w :: rest := by
  cases r with
  | nil =>
    show decodeLast (letter x) (letter y) (letter z) (letter w) = _
    unfold decodeLast
    simp only [value?_letter hx, value?_letter hy, value?_letter hz, value?_letter hw,
      if_neg (letter_ne_pad hz), if_neg (letter_ne_pad hw), Option.bind_eq_bind, Option.bind_some]
    rfl
  | cons e r =>
    show (value? (letter x) >>= fun x => value? (letter y) >>= fun y =>
      value? (letter z) >>= fun z => value? (letter w) >>= fun w => decode? (e :: r) >>= fun rest =>
        pure (first x y :: second y z :: third z w :: rest)) = _
    simp only [value?_letter hx, value?_letter hy, value?_letter hz, value?_letter hw,
      Option.bind_eq_bind, Option.bind_some]
    cases decode? (e :: r) <;> rfl

theorem decode?_pair (hx : x < 64) (hy : y < 64) (hz : z < 64) (hbits : z % 4 = 0) :
    decode? [letter x, letter y, letter z, pad] = some [first x y, second y z] := by
  show decodeLast (letter x) (letter y) (letter z) pad = _
  unfold decodeLast
  simp only [value?_letter hx, value?_letter hy, value?_letter hz, if_neg (letter_ne_pad hz),
    if_pos hbits, if_true, Option.bind_eq_bind, Option.bind_some]
  rfl

theorem decode?_single (hx : x < 64) (hy : y < 64) (hbits : y % 16 = 0) :
    decode? [letter x, letter y, pad, pad] = some [first x y] := by
  show decodeLast (letter x) (letter y) pad pad = _
  unfold decodeLast
  simp only [value?_letter hx, value?_letter hy, hbits, decide_true, Bool.and_true, if_true,
    Option.bind_eq_bind, Option.bind_some]
  rfl

/-! ## Texts -/

/-- What was written reads as what it was. -/
theorem decode?_encode (os : Bytes) : decode? (encode os) = some os := by
  induction os using encode.induct with
  | case1 a b c r ih =>
    have hb := b.toNat_lt
    have hc := c.toNat_lt
    obtain ⟨x, y, hx, hy, hmore, rfl⟩ := exists_first a (show b.toNat / 16 < 16 by omega)
    obtain ⟨z, hz, hmore', rfl⟩ := exists_second b (show c.toNat / 64 < 4 by omega) hmore
    obtain ⟨w, hw, rfl⟩ := exists_third c hmore'
    rw [encode_group hx hy hz hw, decode?_group hx hy hz hw, ih]
    rfl
  | case2 a b =>
    have hb := b.toNat_lt
    obtain ⟨x, y, hx, hy, hmore, rfl⟩ := exists_first a (show b.toNat / 16 < 16 by omega)
    obtain ⟨z, hz, hbits, rfl⟩ := exists_second b (show 0 < 4 by omega) hmore
    rw [encode_pair hx hy hz hbits, decode?_pair hx hy hz hbits]
  | case3 a =>
    obtain ⟨x, y, hx, hy, hbits, rfl⟩ := exists_first a (show 0 < 16 by omega)
    rw [encode_single hx hy hbits, decode?_single hx hy hbits]
  | case4 => rfl

/-- What is read from a character first is read from a six-bit value. -/
theorem value?_bind {α : Type} {f : Nat → Option α} {r : α}
    (h : (value? b >>= f) = some r) : ∃ n < 64, b = letter n ∧ f n = some r := by
  obtain ⟨n, hn, hf⟩ := Option.bind_eq_some_iff.mp h
  exact ⟨n, (value?_eq_some_iff.mp hn).1, (value?_eq_some_iff.mp hn).2, hf⟩

/-- The last group is read only as what it is written for. -/
theorem decodeLast_sound {os : Bytes} (h : decodeLast a b c d = some os) :
    [a, b, c, d] = encode os := by
  obtain ⟨x, hx, rfl, hrest⟩ := value?_bind h
  obtain ⟨y, hy, rfl, hrest'⟩ := value?_bind hrest
  by_cases hc : c = pad
  · rw [if_pos hc] at hrest'
    by_cases hd : (decide (d = pad) && decide (y % 16 = 0)) = true
    · rw [if_pos hd] at hrest'
      simp only [Bool.and_eq_true, decide_eq_true_eq] at hd
      obtain rfl := Option.some.inj hrest'
      rw [hc, hd.1]
      exact (encode_single hx hy hd.2).symm
    · rw [if_neg hd] at hrest'
      cases hrest'
  · rw [if_neg hc] at hrest'
    obtain ⟨z, hz, rfl, hlast⟩ := value?_bind hrest'
    by_cases hd : d = pad
    · rw [if_pos hd] at hlast
      by_cases hbits : z % 4 = 0
      · rw [if_pos hbits] at hlast
        obtain rfl := Option.some.inj hlast
        rw [hd]
        exact (encode_pair hx hy hz hbits).symm
      · rw [if_neg hbits] at hlast
        cases hlast
    · rw [if_neg hd] at hlast
      obtain ⟨w, hw, rfl, hoctets⟩ := value?_bind hlast
      obtain rfl := Option.some.inj hoctets
      exact (encode_group hx hy hz hw []).symm

/-- A text is read just when writing gives it, and then it reads as what it was written for. -/
theorem decode?_eq_some_iff {bs os : Bytes} : decode? bs = some os ↔ bs = encode os := by
  constructor
  · intro h
    induction bs using decode?.induct generalizing os with
    | case1 =>
      cases h
      rfl
    | case2 a b c d => exact decodeLast_sound h
    | case3 a b c d r hr ih =>
      have hchain : decode? (a :: b :: c :: d :: r) =
          (value? a >>= fun x => value? b >>= fun y => value? c >>= fun z => value? d >>= fun w =>
            decode? r >>= fun rest =>
              some (first x y :: second y z :: third z w :: rest)) := by
        rw [decode?]
        · rfl
        · exact hr
      rw [hchain] at h
      obtain ⟨x, hx, rfl, hrest⟩ := value?_bind h
      obtain ⟨y, hy, rfl, hrest'⟩ := value?_bind hrest
      obtain ⟨z, hz, rfl, hlast⟩ := value?_bind hrest'
      obtain ⟨w, hw, rfl, hoctets⟩ := value?_bind hlast
      obtain ⟨rest, hread, hall⟩ := Option.bind_eq_some_iff.mp hoctets
      obtain rfl := Option.some.inj hall
      rw [ih hread]
      exact (encode_group hx hy hz hw rest).symm
    | case4 bs hnil hgroup hmore =>
      rw [decode?] at h
      · cases h
      · exact hnil
      · exact hgroup
      · exact hmore
  · rintro rfl
    exact decode?_encode os

/-- Nothing but the characters of six-bit values and padding is written. -/
theorem mem_encode {os : Bytes} (h : b ∈ encode os) : b = pad ∨ ∃ n < 64, b = letter n := by
  induction os using encode.induct with
  | case1 a b' c r ih =>
    have ha := a.toNat_lt
    have hb := b'.toNat_lt
    have hc := c.toNat_lt
    rw [encode] at h
    simp only [List.mem_cons] at h
    rcases h with rfl | rfl | rfl | rfl | h
    · exact Or.inr ⟨_, by omega, rfl⟩
    · exact Or.inr ⟨_, by omega, rfl⟩
    · exact Or.inr ⟨_, by omega, rfl⟩
    · exact Or.inr ⟨_, by omega, rfl⟩
    · exact ih h
  | case2 a b' =>
    have ha := a.toNat_lt
    have hb := b'.toNat_lt
    rw [encode] at h
    simp only [List.mem_cons, List.not_mem_nil, or_false] at h
    rcases h with rfl | rfl | rfl | rfl
    · exact Or.inr ⟨_, by omega, rfl⟩
    · exact Or.inr ⟨_, by omega, rfl⟩
    · exact Or.inr ⟨_, by omega, rfl⟩
    · exact Or.inl rfl
  | case3 a =>
    have ha := a.toNat_lt
    rw [encode] at h
    simp only [List.mem_cons, List.not_mem_nil, or_false] at h
    rcases h with rfl | rfl | rfl | rfl
    · exact Or.inr ⟨_, by omega, rfl⟩
    · exact Or.inr ⟨_, by omega, rfl⟩
    · exact Or.inl rfl
    · exact Or.inl rfl
  | case4 => cases h

theorem encode_eq_nil_iff {os : Bytes} : encode os = [] ↔ os = [] := by
  constructor
  · intro h
    have hread := decode?_encode os
    rw [h] at hread
    exact (Option.some.inj hread).symm
  · rintro rfl
    rfl

end DeviceGateway.Base64
