import DeviceGateway.Proofs.Text.Utf8

/-
  Where a text may be cut. A character's first octet starts a character and its further ones do not
  (`encode_shape`), so the boundaries of a text are the places where fronts of it end
  (`isBoundary_iff`), and there is one at most three octets in front of any place in the text
  (`exists_front_near`). What stands in front of the last boundary up to a place is the longest
  front that fits there (`longestFront_of_lastBoundary`).
-/

namespace DeviceGateway.Utf8

variable {octets : Bytes} {s t u : String} {n k room : Nat}

/-! ## The octets of one character -/

theorem startsCharacter_ofNat (h : n < 256) :
    startsCharacter (UInt8.ofNat n) = true ↔ n < 128 ∨ 192 ≤ n := by
  have hall : ∀ n < 256, startsCharacter (UInt8.ofNat n) = true ↔ n < 128 ∨ 192 ≤ n := by
    decide +kernel
  exact hall n h

/-- Only the first octet of a character starts one, and at most three follow it. -/
theorem encode_shape (c : Char) : ∃ first further, String.utf8EncodeChar c = first :: further ∧
    startsCharacter first = true ∧ (∀ b ∈ further, startsCharacter b = false) ∧
    further.length ≤ 3 := by
  have hvalid : c.toNat < 0xD800 ∨ 0xDFFF < c.toNat ∧ c.toNat < 0x110000 := c.valid
  have hfurther : ∀ k, startsCharacter (UInt8.ofNat (k % 64 + 128)) = false := by
    intro k
    rw [← Bool.not_eq_true, startsCharacter_ofNat (by omega)]
    omega
  rw [← Char.ofNat_toNat c]
  generalize c.toNat = v at hvalid
  by_cases hone : v < 0x80
  · exact ⟨_, [], encode_one hone, (startsCharacter_ofNat (by omega)).mpr (Or.inl hone), nofun,
      Nat.zero_le 3⟩
  by_cases htwo : v < 0x800
  · refine ⟨_, _, encode_two (by omega) htwo, (startsCharacter_ofNat (by omega)).mpr (by omega),
      ?_, Nat.le_add_right 1 2⟩
    exact List.forall_mem_singleton.mpr (hfurther _)
  by_cases hthree : v < 0x10000
  · refine ⟨_, _, encode_three (by omega) hthree (by omega),
      (startsCharacter_ofNat (by omega)).mpr (by omega), ?_, Nat.le_add_right 2 1⟩
    exact List.forall_mem_cons.mpr ⟨hfurther _, List.forall_mem_singleton.mpr (hfurther _)⟩
  · refine ⟨_, _, encode_four (by omega) (by omega),
      (startsCharacter_ofNat (by omega)).mpr (by omega), ?_, Nat.le_refl 3⟩
    exact List.forall_mem_cons.mpr ⟨hfurther _,
      List.forall_mem_cons.mpr ⟨hfurther _, List.forall_mem_singleton.mpr (hfurther _)⟩⟩

/-! ## Boundaries -/

theorem isBoundary_zero (octets : Bytes) : isBoundary octets 0 = true := rfl

/-- A boundary of octets that follow others is one of theirs. -/
theorem isBoundary_behind {before : Bytes}
    (h : isBoundary (before ++ octets) (before.length + k) = true) :
    isBoundary octets k = true := by
  cases k with
  | zero => exact isBoundary_zero octets
  | succ k =>
    unfold isBoundary at h ⊢
    rw [List.getElem?_append_right (by omega), List.length_append] at h
    simpa using h

/-- Where a front of a text ends, it may be cut. -/
theorem isBoundary_front (s t : String) : isBoundary (utf8 (s ++ t)) (utf8 s).length = true := by
  rw [utf8_append]
  unfold isBoundary
  rw [List.getElem?_append_right (Nat.le_refl _), Nat.sub_self]
  unfold utf8
  cases t.toList with
  | nil => simp
  | cons c cs =>
    obtain ⟨first, further, hchar, hfirst, -⟩ := encode_shape c
    simp [hchar, hfirst]

theorem exists_front_of_boundary {cs : List Char}
    (h : isBoundary (cs.flatMap String.utf8EncodeChar) n = true) :
    ∃ front rest, cs = front ++ rest ∧ (front.flatMap String.utf8EncodeChar).length = n := by
  induction cs generalizing n with
  | nil => exact ⟨[], [], rfl, by simpa [isBoundary, eq_comm] using h⟩
  | cons c cs ih =>
    rw [List.flatMap_cons] at h
    by_cases hinside : n < (String.utf8EncodeChar c).length
    · -- only in front of its first octet may a character be cut
      obtain ⟨first, further, hchar, -, hfurther, -⟩ := encode_shape c
      rw [hchar] at h hinside
      cases n with
      | zero => exact ⟨[], c :: cs, rfl, rfl⟩
      | succ n =>
        have hn : n < further.length := by simpa using hinside
        have hoctet := hfurther _ (List.getElem_mem hn)
        simp [isBoundary, List.getElem?_append_left hn, List.getElem?_eq_getElem hn, hoctet] at h
    · obtain ⟨k, rfl⟩ := Nat.exists_eq_add_of_le (Nat.not_lt.mp hinside)
      obtain ⟨front, rest, rfl, hlength⟩ := ih (isBoundary_behind h)
      exact ⟨c :: front, rest, rfl, by simp [hlength]⟩

/-- The characters in front of a text are a front of it. -/
theorem front_of_chars {P : Nat → Prop} (h : ∃ front rest, s.toList = front ++ rest ∧
    P (front.flatMap String.utf8EncodeChar).length) :
    ∃ t rest, s = t ++ rest ∧ P (utf8 t).length := by
  obtain ⟨front, rest, hs, hlength⟩ := h
  refine ⟨String.ofList front, String.ofList rest, ?_, ?_⟩
  · rw [← String.ofList_append, ← hs, String.ofList_toList]
  · unfold utf8
    rw [String.toList_ofList]
    exact hlength

/-- A text may be cut just where a front of it ends. -/
theorem isBoundary_iff : isBoundary (utf8 s) n = true ↔
    ∃ t rest, s = t ++ rest ∧ (utf8 t).length = n := by
  constructor
  · intro h
    exact front_of_chars (P := (· = n)) (exists_front_of_boundary h)
  · rintro ⟨t, rest, rfl, rfl⟩
    exact isBoundary_front t rest

/-! ## Fronts -/

theorem takeOctets_front (cs more : List Char) :
    takeOctets (cs.flatMap String.utf8EncodeChar).length (cs ++ more) = cs := by
  induction cs with
  | nil => simp [takeOctets]
  | cons c cs ih =>
    obtain ⟨k, hk⟩ : ∃ k, c.utf8Size = k + 1 := Nat.exists_eq_add_one.mpr c.utf8Size_pos
    have hsize : ((c :: cs).flatMap String.utf8EncodeChar).length =
        (cs.flatMap String.utf8EncodeChar).length + k + 1 := by
      simp [String.length_utf8EncodeChar, hk]
      omega
    rw [hsize, List.cons_append, takeOctets, hk, Nat.add_assoc, Nat.add_sub_cancel, ih]
    exact Nat.succ_ne_zero _

/-- What stands in front of a boundary is the front that ends there. -/
theorem front?_front (s t : String) : front? (s ++ t) (utf8 s).length = some s := by
  unfold front?
  rw [if_pos (isBoundary_front s t), String.toList_append]
  unfold utf8
  rw [takeOctets_front, String.ofList_toList]

theorem prefix_iff : (∃ rest, s = t ++ rest) ↔ t.toList <+: s.toList := by
  constructor
  · rintro ⟨rest, rfl⟩
    exact ⟨rest.toList, String.toList_append.symm⟩
  · rintro ⟨rest, hrest⟩
    exact ⟨String.ofList rest, String.toList_inj.mp (by simp [← hrest])⟩

/-- A front of a text is one of any longer front. -/
theorem front_of_front (ht : ∃ rest, s = t ++ rest) (hu : ∃ rest, s = u ++ rest)
    (hle : (utf8 t).length ≤ (utf8 u).length) : ∃ between, u = t ++ between := by
  rcases List.prefix_or_prefix_of_prefix (prefix_iff.mp ht) (prefix_iff.mp hu) with hfront | hback
  · exact prefix_iff.mpr hfront
  · obtain ⟨between, rfl⟩ := prefix_iff.mpr hback
    rw [utf8_append, List.length_append] at hle
    have hempty : utf8 between = utf8 "" := List.length_eq_zero_iff.mp (by omega)
    exact ⟨"", by rw [utf8_inj hempty, String.append_empty, String.append_empty]⟩

/-- Is `t` the longest front of `s` that takes at most `room` octets? -/
structure LongestFront (room : Nat) (s t : String) : Prop where
  front : ∃ rest, s = t ++ rest
  fits : (utf8 t).length ≤ room
  longest : ∀ u rest, s = u ++ rest → (utf8 u).length ≤ room → ∃ between, t = u ++ between

theorem longestFront_self (h : (utf8 s).length ≤ room) : LongestFront room s s :=
  ⟨⟨"", String.append_empty.symm⟩, h, fun _ rest hs _ => ⟨rest, hs⟩⟩

/-- The last boundary up to a place is where the longest front ends that fits there. -/
theorem longestFront_of_lastBoundary (hlast : lastBoundary? (utf8 s) room = some n) :
    ∃ t, front? s n = some t ∧ LongestFront room s t := by
  obtain ⟨k, hk, hle, hboundary, hgreatest⟩ := exists_lastBoundary (utf8 s) room
  cases hlast.symm.trans hk
  obtain ⟨t, rest, rfl, rfl⟩ := isBoundary_iff.mp hboundary
  refine ⟨t, front?_front t rest, ⟨rest, rfl⟩, hle, fun u more hu hfits => ?_⟩
  have hu' : isBoundary (utf8 (t ++ rest)) (utf8 u).length = true :=
    isBoundary_iff.mpr ⟨u, more, hu, rfl⟩
  exact front_of_front ⟨more, hu⟩ ⟨rest, rfl⟩ (hgreatest _ hfits hu')

/-- A front that fits is no longer than the longest one. -/
theorem LongestFront.length_le (h : LongestFront room s t) {rest : String} (hu : s = u ++ rest)
    (hfits : (utf8 u).length ≤ room) : (utf8 u).length ≤ (utf8 t).length := by
  obtain ⟨between, rfl⟩ := h.longest u rest hu hfits
  rw [utf8_append, List.length_append]
  exact Nat.le_add_right _ _

end DeviceGateway.Utf8
