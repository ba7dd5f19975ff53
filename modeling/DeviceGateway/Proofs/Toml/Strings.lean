import DeviceGateway.Toml.Quoted
import DeviceGateway.Toml.Text

/-
  Reading back written strings. Each character that stands between double quotes, as it is or
  escaped, reads as that character (`escaped_spec`); quotes that stand as they are between three
  quotes are never three in a row, so that only the closing ones close (`escapeFrom_front`,
  `Calm.front`). Whatever form a text is written in, it reads as the text (`string_quoted`).
-/

namespace DeviceGateway.Toml

variable {c : Char} {cs rest done : List Char} {fuel n run : Nat} {multi : Bool}

/-! ## Escapes -/

theorem escapeFrom_done (multi : Bool) (run : Nat) (done cs : List Char) :
    escapeFrom multi run done cs = done.reverse ++ escapeFrom multi run [] cs := by
  induction cs generalizing run done with
  | nil => simp [escapeFrom]
  | cons c cs ih =>
    unfold escapeFrom
    split
    · rw [ih, ih (run + 1) ['"']]
      simp
    · rw [ih, ih 0 ((escaped multi c).reverseAux [])]
      simp [List.reverseAux_eq]

/-- A quote that may stand. -/
theorem escapeFrom_quote (hrun : run < 2) (cs : List Char) :
    escapeFrom true run [] ('"' :: cs) = '"' :: escapeFrom true (run + 1) [] cs := by
  conv => lhs; unfold escapeFrom
  rw [if_pos ⟨rfl, rfl, hrun⟩, escapeFrom_done]
  rfl

/-- Any other character. -/
theorem escapeFrom_escaped (h : ¬ (c = '"' ∧ multi = true ∧ run < 2)) (cs : List Char) :
    escapeFrom multi run [] (c :: cs) = escaped multi c ++ escapeFrom multi 0 [] cs := by
  conv => lhs; unfold escapeFrom
  rw [if_neg h, escapeFrom_done, List.reverseAux_eq, List.append_nil,
    List.reverse_reverse]

/-- The four digits of a control character are read as its number. -/
theorem hex4_digits (hn : n < 128) : (hex4 n).length = 4 ∧
    ((hex4 n).mapM hexDigit?).map (·.foldl (fun n d => n * 16 + d) 0) = some n := by
  have hall : ∀ n < 128, (hex4 n).length = 4 ∧
      ((hex4 n).mapM hexDigit?).map (·.foldl (fun n d => n * 16 + d) 0) = some n := by
    decide +kernel
  exact hall n hn

theorem lt_of_isControl (h : isControl c = true) : c.toNat < 128 := by
  unfold isControl at h
  simp only [Bool.or_eq_true, Bool.and_eq_true, decide_eq_true_eq] at h
  omega

theorem codePoint_hex4 (h : isControl c = true) (rest : List Char) :
    codePoint? 4 (hex4 c.toNat ++ rest) = some (c, rest) := by
  obtain ⟨hlength, hdigits⟩ := hex4_digits (lt_of_isControl h)
  obtain ⟨values, hvalues, hfold⟩ := Option.map_eq_some_iff.mp hdigits
  have htake : (hex4 c.toNat ++ rest).take 4 = hex4 c.toNat := List.take_left' hlength
  have hdrop : (hex4 c.toNat ++ rest).drop 4 = rest := List.drop_left' hlength
  have hvalid : c.toNat.isValidChar := c.valid
  unfold codePoint?
  rw [htake, hdrop, if_neg (not_not_intro hlength), hvalues]
  show (if (values.foldl (fun n d => n * 16 + d) 0).isValidChar then _ else none) = _
  rw [hfold, if_pos hvalid, Char.ofNat_toNat]

theorem of_not_control (h : isControl c = false) :
    (c = '\t' ∨ c = '\n' ∨ 0x20 ≤ c.toNat) ∧ c.toNat ≠ 0x7F := by
  unfold isControl at h
  obtain ⟨hlow, hdelete⟩ := Bool.or_eq_false_iff.mp h
  refine ⟨?_, of_decide_eq_false hdelete⟩
  by_cases htab : c = '\t'
  · exact Or.inl htab
  · by_cases hline : c = '\n'
    · exact Or.inr (Or.inl hline)
    · refine Or.inr (Or.inr (Nat.le_of_not_lt fun hlt => ?_))
      simp [htab, hline, hlt] at hlow

theorem isBasicChar_of_not_control (h : isControl c = false) (hline : c ≠ '\n') (hquote : c ≠ '"')
    (hslash : c ≠ '\\') : isBasicChar c = true := by
  obtain ⟨hlow, hdelete⟩ := of_not_control h
  unfold isBasicChar
  rcases hlow with rfl | hn | hlow
  · rfl
  · exact absurd hn hline
  · simp [hlow, hquote, hslash, hdelete]

theorem isLiteralChar_of_not_control (h : isControl c = false) (hline : c ≠ '\n')
    (hquote : c ≠ '\'') : isLiteralChar c = true := by
  obtain ⟨hlow, hdelete⟩ := of_not_control h
  unfold isLiteralChar
  rcases hlow with rfl | hn | hlow
  · rfl
  · exact absurd hn hline
  · simp [hlow, hquote, hdelete]

/-- An escape of one letter. -/
theorem escaped_letter {d : Char} (h : escaped multi c = ['\\', d])
    (hread : ∀ rest, escape? (d :: rest) = some (c, rest))
    (hjoin : ∀ rest, joinLines? (d :: rest) = none) :
    ∃ e, escaped multi c = '\\' :: e ∧ ∀ rest, escape? (e ++ rest) = some (c, rest) ∧
      joinLines? (e ++ rest) = none :=
  ⟨[d], h, fun rest => ⟨hread rest, hjoin rest⟩⟩

/-- A character between double quotes is a line end that may stand, an escape that reads as the
character, or the character as it is. -/
theorem escaped_spec (multi : Bool) (c : Char) :
    (c = '\n' ∧ multi = true ∧ escaped multi c = ['\n']) ∨
    (∃ e, escaped multi c = '\\' :: e ∧ ∀ rest, escape? (e ++ rest) = some (c, rest) ∧
      joinLines? (e ++ rest) = none) ∨
    (escaped multi c = [c] ∧ isBasicChar c = true ∧ c ≠ '"' ∧ c ≠ '\\') := by
  by_cases hquote : c = '"'
  · subst hquote
    exact Or.inr (Or.inl (escaped_letter rfl (fun _ => rfl) fun _ => rfl))
  by_cases hslash : c = '\\'
  · subst hslash
    exact Or.inr (Or.inl (escaped_letter rfl (fun _ => rfl) fun _ => rfl))
  by_cases hline : c = '\n'
  · subst hline
    cases multi with
    | true => exact Or.inl ⟨rfl, rfl, rfl⟩
    | false => exact Or.inr (Or.inl (escaped_letter rfl (fun _ => rfl) fun _ => rfl))
  by_cases htab : c = '\t'
  · subst htab
    exact Or.inr (Or.inl (escaped_letter rfl (fun _ => rfl) fun _ => rfl))
  by_cases hreturn : c = '\r'
  · subst hreturn
    exact Or.inr (Or.inl (escaped_letter rfl (fun _ => rfl) fun _ => rfl))
  by_cases hback : c = '\x08'
  · subst hback
    exact Or.inr (Or.inl (escaped_letter rfl (fun _ => rfl) fun _ => rfl))
  by_cases hfeed : c = '\x0c'
  · subst hfeed
    exact Or.inr (Or.inl (escaped_letter rfl (fun _ => rfl) fun _ => rfl))
  have hrest : escaped multi c = if isControl c then '\\' :: 'u' :: hex4 c.toNat else [c] := by
    simp only [escaped, hquote, hslash, hline, htab, hreturn, hback, hfeed, if_false]
  cases hcontrol : isControl c with
  | true =>
    rw [hcontrol] at hrest
    refine Or.inr (Or.inl ⟨'u' :: hex4 c.toNat, hrest, fun rest => ⟨?_, rfl⟩⟩)
    exact codePoint_hex4 hcontrol rest
  | false =>
    rw [hcontrol] at hrest
    refine Or.inr (Or.inr ⟨hrest, ?_, hquote, hslash⟩)
    exact isBasicChar_of_not_control hcontrol hline hquote hslash

/-! ## Strings of one line -/

theorem basic_escape {d : Char} {r : List Char} (h : escape? r = some (d, rest)) :
    basic? (n + 1) done ('\\' :: r) = basic? n (d :: done) rest := by
  conv => lhs; unfold basic?
  rw [if_neg (by decide), if_pos rfl, h]

theorem basic_plain (h : isBasicChar c = true) (hquote : c ≠ '"') (hslash : c ≠ '\\') :
    basic? (n + 1) done (c :: rest) = basic? n (c :: done) rest := by
  conv => lhs; unfold basic?
  rw [if_neg hquote, if_neg hslash, if_pos h]

theorem basic_read (hfuel : cs.length < fuel) :
    basic? fuel done (escapeFrom false 0 [] cs ++ '"' :: rest) =
      some (String.ofList (done.reverse ++ cs), rest) := by
  induction cs generalizing fuel done with
  | nil =>
    obtain ⟨n, rfl⟩ := Nat.exists_eq_add_one.mpr hfuel
    rw [List.append_nil]
    rfl
  | cons c cs ih =>
    obtain ⟨n, rfl⟩ := Nat.exists_eq_add_one.mpr (Nat.zero_lt_of_lt hfuel)
    have hrest := @ih (c :: done) n (Nat.lt_of_succ_lt_succ hfuel)
    rw [List.reverse_cons, List.append_assoc] at hrest
    rw [escapeFrom_escaped (by simp), List.append_assoc]
    rcases escaped_spec false c with ⟨_, hmulti, _⟩ | ⟨e, he, hread⟩ | ⟨he, hc, hquote, hslash⟩
    · cases hmulti
    · rw [he, List.cons_append, basic_escape (hread _).1]
      exact hrest
    · rw [he]
      exact (basic_plain hc hquote hslash).trans hrest

theorem literal_read (h : ∀ c ∈ cs, isLiteralChar c = true) :
    literal? (cs ++ '\'' :: rest) = some (String.ofList cs, rest) := by
  have hquote : isLiteralChar '\'' = false := by decide
  unfold literal?
  rw [List.dropWhile_append_of_pos h, List.takeWhile_append_of_pos h,
    List.dropWhile_cons_of_neg (by rw [hquote]; decide),
    List.takeWhile_cons_of_neg (by rw [hquote]; decide), List.append_nil]
  rfl

/-! ## Runs of quotes -/

variable {q x : Char} {k : Nat}

theorem takeWhile_replicate (hx : x ≠ q) (k : Nat) (rest : List Char) :
    (List.replicate k q ++ x :: rest).takeWhile (· = q) = List.replicate k q := by
  rw [List.takeWhile_append_of_pos fun c hc => decide_eq_true (List.eq_of_mem_replicate hc),
    List.takeWhile_cons_of_neg (by simpa using hx), List.append_nil]

/-- Fewer than three quotes close nothing. -/
theorem closing_none (hk : k ≤ 2) (hx : x ≠ q) (rest : List Char) :
    closing? q (List.replicate k q ++ x :: rest) = none := by
  unfold closing?
  rw [takeWhile_replicate hx, List.length_replicate]
  exact if_pos (Nat.lt_succ_of_le hk)

/-- The last three quotes of a run close, and up to two in front of them stand. -/
theorem closing_some (hk : k ≤ 2) (hx : x ≠ q) (rest : List Char) :
    closing? q (List.replicate (k + 3) q ++ x :: rest) = some (k, x :: rest) := by
  unfold closing?
  rw [takeWhile_replicate hx, List.length_replicate]
  show (if k + 3 < 3 then none else some (min (k + 3 - 3) 2, _)) = _
  rw [if_neg (Nat.not_lt.mpr (Nat.le_add_left 3 k)), Nat.add_sub_cancel, Nat.min_eq_left hk,
    Nat.min_eq_left (Nat.add_le_add_right hk 3), List.drop_left' List.length_replicate]

/-! ## Strings of several lines between double quotes -/

theorem escaped_head (multi : Bool) (c : Char) : ∃ x e, escaped multi c = x :: e ∧ x ≠ '"' := by
  rcases escaped_spec multi c with ⟨_, _, he⟩ | ⟨e, he, _⟩ | ⟨he, _, hquote, _⟩
  · exact ⟨'\n', [], he, by decide⟩
  · exact ⟨'\\', e, he, by decide⟩
  · exact ⟨c, [], he, hquote⟩

/-- Of the quotes that stand as they are, there are no three in a row, and if nothing follows them
they are the text. -/
theorem escapeFrom_front (hrun : run ≤ 2) (cs : List Char) :
    ∃ k, k + run ≤ 2 ∧
      ((cs = List.replicate k '"' ∧ escapeFrom true run [] cs = List.replicate k '"') ∨
        ∃ x rest, x ≠ '"' ∧ escapeFrom true run [] cs = List.replicate k '"' ++ x :: rest) := by
  induction cs generalizing run with
  | nil => exact ⟨0, by omega, Or.inl ⟨rfl, rfl⟩⟩
  | cons c cs ih =>
    by_cases hquote : c = '"' ∧ run < 2
    · obtain ⟨rfl, hlt⟩ := hquote
      obtain ⟨k, hk, h⟩ := @ih (run + 1) hlt
      refine ⟨k + 1, by omega, ?_⟩
      rw [escapeFrom_quote hlt]
      rcases h with ⟨hcs, he⟩ | ⟨x, rest, hx, he⟩
      · rw [he, hcs]
        exact Or.inl ⟨rfl, rfl⟩
      · rw [he]
        exact Or.inr ⟨x, rest, hx, rfl⟩
    · obtain ⟨x, e, he, hx⟩ := escaped_head true c
      refine ⟨0, by omega, Or.inr ⟨x, e ++ escapeFrom true 0 [] cs, hx, ?_⟩⟩
      rw [escapeFrom_escaped (fun h => hquote ⟨h.1, h.2.2⟩), he]
      rfl

theorem multiBasic_open {r : List Char} (h : closing? '"' ('"' :: r) = none) :
    multiBasic? (n + 1) done ('"' :: r) = multiBasic? n ('"' :: done) r := by
  conv => lhs; unfold multiBasic?
  rw [if_pos rfl, h]

theorem multiBasic_close {r : List Char} (h : closing? '"' ('"' :: r) = some (k, rest)) :
    multiBasic? (n + 1) done ('"' :: r) =
      some (String.ofList (done.reverse ++ List.replicate k '"'), rest) := by
  conv => lhs; unfold multiBasic?
  rw [if_pos rfl, h]
  simp

theorem multiBasic_escape {d : Char} {r : List Char} (hjoin : joinLines? r = none)
    (h : escape? r = some (d, rest)) :
    multiBasic? (n + 1) done ('\\' :: r) = multiBasic? n (d :: done) rest := by
  conv => lhs; unfold multiBasic?
  rw [if_neg (by decide), if_pos rfl, hjoin, h]

theorem multiBasic_plain (h : isBasicChar c = true) (hquote : c ≠ '"') (hslash : c ≠ '\\') :
    multiBasic? (n + 1) done (c :: rest) = multiBasic? n (c :: done) rest := by
  conv => lhs; unfold multiBasic?
  rw [if_neg hquote, if_neg hslash, if_pos h]

theorem multiBasic_line :
    multiBasic? (n + 1) done ('\n' :: rest) = multiBasic? n ('\n' :: done) rest :=
  rfl

theorem multiBasic_read (hfuel : cs.length < fuel) (hrun : run ≤ 2) (hx : x ≠ '"') :
    multiBasic? fuel done (escapeFrom true run [] cs ++ (List.replicate 3 '"' ++ x :: rest)) =
      some (String.ofList (done.reverse ++ cs), x :: rest) := by
  induction cs generalizing fuel done run with
  | nil =>
    obtain ⟨n, rfl⟩ := Nat.exists_eq_add_one.mpr hfuel
    exact multiBasic_close (closing_some (Nat.zero_le 2) hx rest)
  | cons c cs ih =>
    obtain ⟨n, rfl⟩ := Nat.exists_eq_add_one.mpr (Nat.zero_lt_of_lt hfuel)
    have hlength := Nat.lt_of_succ_lt_succ hfuel
    by_cases hquote : c = '"' ∧ run < 2
    · obtain ⟨rfl, hlt⟩ := hquote
      obtain ⟨k, hk, h⟩ := escapeFrom_front hrun ('"' :: cs)
      rcases h with ⟨hcs, he⟩ | ⟨y, e, hy, he⟩
      · rw [he, hcs, ← List.append_assoc, List.replicate_append_replicate]
        exact multiBasic_close (closing_some (by omega) hx rest)
      · have hnone : closing? '"' ('"' :: (escapeFrom true (run + 1) [] cs ++
            (List.replicate 3 '"' ++ x :: rest))) = none := by
          rw [← List.cons_append, ← escapeFrom_quote hlt, he, List.append_assoc]
          exact closing_none (by omega) hy _
        have hrest := @ih ('"' :: done) n (run + 1) hlength hlt
        rw [List.reverse_cons, List.append_assoc] at hrest
        rw [escapeFrom_quote hlt]
        exact (multiBasic_open hnone).trans hrest
    · have hrest := @ih (c :: done) n 0 hlength (Nat.zero_le 2)
      rw [List.reverse_cons, List.append_assoc] at hrest
      rw [escapeFrom_escaped (fun h => hquote ⟨h.1, h.2.2⟩), List.append_assoc]
      rcases escaped_spec true c with ⟨rfl, _, he⟩ | ⟨e, he, hread⟩ | ⟨he, hc, hquote, hslash⟩
      · rw [he]
        exact multiBasic_line.trans hrest
      · rw [he, List.cons_append, multiBasic_escape (hread _).2 (hread _).1]
        exact hrest
      · rw [he]
        exact (multiBasic_plain hc hquote hslash).trans hrest

/-! ## Strings of several lines between single quotes -/

/-- Are there nowhere more than `m` quotes in a row, with so many in front? -/
def Calm (m : Nat) (q : Char) : Nat → List Char → Prop
  | _, [] => True
  | run, c :: cs => if c = q then run < m ∧ Calm m q (run + 1) cs else Calm m q 0 cs

theorem Calm.front (hrun : run ≤ 2) (h : Calm 2 q run cs) :
    ∃ k, k + run ≤ 2 ∧ (cs = List.replicate k q ∨
      ∃ x rest, x ≠ q ∧ cs = List.replicate k q ++ x :: rest) := by
  induction cs generalizing run with
  | nil => exact ⟨0, by omega, Or.inl rfl⟩
  | cons c cs ih =>
    unfold Calm at h
    split at h
    · next hc =>
      obtain ⟨hlt, hcalm⟩ := h
      obtain ⟨k, hk, h⟩ := @ih (run + 1) hlt hcalm
      subst hc
      refine ⟨k + 1, by omega, ?_⟩
      rcases h with rfl | ⟨x, rest, hx, rfl⟩
      · exact Or.inl rfl
      · exact Or.inr ⟨x, rest, hx, rfl⟩
    · next hc => exact ⟨0, by omega, Or.inr ⟨c, cs, hc, rfl⟩⟩

theorem calm_of_longestRun {m : Nat} (h : longestRun q cs ≤ m) : Calm m q 0 cs := by
  have hfold : ∀ (cs : List Char) (run best : Nat),
      (cs.foldl (fun (p : Nat × Nat) d => if d = q then (p.1 + 1, max p.2 (p.1 + 1)) else (0, p.2))
        (run, best)).2 ≤ m → best ≤ m ∧ Calm m q run cs := by
    intro cs
    induction cs with
    | nil => exact fun _ _ h => ⟨h, trivial⟩
    | cons c cs ih =>
      intro run best h
      rw [List.foldl_cons] at h
      unfold Calm
      split
      · next hc =>
        rw [if_pos hc] at h
        obtain ⟨hbest, hcalm⟩ := ih _ _ h
        exact ⟨by omega, by omega, hcalm⟩
      · next hc =>
        rw [if_neg hc] at h
        exact ih _ _ h
  exact (hfold cs 0 0 h).2

theorem Calm.ne (h : Calm 0 q run cs) : ∀ c ∈ cs, c ≠ q := by
  induction cs generalizing run with
  | nil => exact nofun
  | cons c cs ih =>
    unfold Calm at h
    split at h
    · exact absurd h.1 (Nat.not_lt_zero run)
    · next hc => exact List.forall_mem_cons.mpr ⟨hc, ih h⟩

theorem multiLiteral_open {r : List Char} (h : closing? '\'' ('\'' :: r) = none) :
    multiLiteral? (n + 1) done ('\'' :: r) = multiLiteral? n ('\'' :: done) r := by
  conv => lhs; unfold multiLiteral?
  rw [if_pos rfl, h]

theorem multiLiteral_close {r : List Char} (h : closing? '\'' ('\'' :: r) = some (k, rest)) :
    multiLiteral? (n + 1) done ('\'' :: r) =
      some (String.ofList (done.reverse ++ List.replicate k '\''), rest) := by
  conv => lhs; unfold multiLiteral?
  rw [if_pos rfl, h]
  simp

theorem multiLiteral_plain (h : isLiteralChar c = true) :
    multiLiteral? (n + 1) done (c :: rest) = multiLiteral? n (c :: done) rest := by
  have hquote : c ≠ '\'' := by
    rintro rfl
    exact absurd h (by decide)
  conv => lhs; unfold multiLiteral?
  rw [if_neg hquote, if_pos h]

theorem multiLiteral_line :
    multiLiteral? (n + 1) done ('\n' :: rest) = multiLiteral? n ('\n' :: done) rest := rfl

theorem multiLiteral_read (hfuel : cs.length < fuel) (hrun : run ≤ 2) (hcalm : Calm 2 '\'' run cs)
    (hchars : ∀ c ∈ cs, c = '\'' ∨ c = '\n' ∨ isLiteralChar c = true) (hx : x ≠ '\'') :
    multiLiteral? fuel done (cs ++ (List.replicate 3 '\'' ++ x :: rest)) =
      some (String.ofList (done.reverse ++ cs), x :: rest) := by
  induction cs generalizing fuel done run with
  | nil =>
    obtain ⟨n, rfl⟩ := Nat.exists_eq_add_one.mpr hfuel
    exact multiLiteral_close (closing_some (Nat.zero_le 2) hx rest)
  | cons c cs ih =>
    obtain ⟨n, rfl⟩ := Nat.exists_eq_add_one.mpr (Nat.zero_lt_of_lt hfuel)
    have hlength := Nat.lt_of_succ_lt_succ hfuel
    obtain ⟨hc, hcs⟩ := List.forall_mem_cons.mp hchars
    have hfront := hcalm.front hrun
    unfold Calm at hcalm
    by_cases hquote : c = '\''
    · subst hquote
      rw [if_pos rfl] at hcalm
      obtain ⟨k, hk, h⟩ := hfront
      rcases h with hall | ⟨y, e, hy, he⟩
      · rw [hall, ← List.append_assoc, List.replicate_append_replicate]
        exact multiLiteral_close (closing_some (by omega) hx rest)
      · have hnone :
            closing? '\'' ('\'' :: (cs ++ (List.replicate 3 '\'' ++ x :: rest))) = none := by
          rw [← List.cons_append, he, List.append_assoc]
          exact closing_none (by omega) hy _
        have hrest := @ih ('\'' :: done) n (run + 1) hlength hcalm.1 hcalm.2 hcs
        rw [List.reverse_cons, List.append_assoc] at hrest
        exact (multiLiteral_open hnone).trans hrest
    · rw [if_neg hquote] at hcalm
      have hrest := @ih (c :: done) n 0 hlength (Nat.zero_le 2) hcalm hcs
      rw [List.reverse_cons, List.append_assoc] at hrest
      rcases hc with hc | rfl | hc
      · exact absurd hc hquote
      · exact multiLiteral_line.trans hrest
      · exact (multiLiteral_plain hc).trans hrest

/-! ## All forms -/

theorem not_control_of_any (h : cs.any isControl = false) : ∀ c ∈ cs, isControl c = false := by
  simpa using h

/-- What stands between single quotes on one line needs no escape there. -/
theorem literal_of_style (h : styleOf cs = .literal) : ∀ c ∈ cs, isLiteralChar c = true := by
  unfold styleOf at h
  dsimp only at h
  split at h
  · cases h
  · split at h
    · next hliteral =>
      simp only [Bool.and_eq_true, Bool.not_eq_true', decide_eq_true_eq] at hliteral
      obtain ⟨⟨hcontrols, hsingles⟩, hlines⟩ := hliteral
      have hquotes := (calm_of_longestRun (Nat.le_of_eq hsingles)).ne
      intro c hc
      refine isLiteralChar_of_not_control (not_control_of_any hcontrols c hc) ?_ (hquotes c hc)
      rintro rfl
      simp [hc] at hlines
    · repeat' split at h
      all_goals cases h

/-- What stands between three single quotes needs no escape there. -/
theorem multiLiteral_of_style (h : styleOf cs = .multiLiteral) :
    Calm 2 '\'' 0 cs ∧ ∀ c ∈ cs, c = '\'' ∨ c = '\n' ∨ isLiteralChar c = true := by
  unfold styleOf at h
  dsimp only at h
  split at h
  · cases h
  · split at h
    · cases h
    · split at h
      · cases h
      · split at h
        · next hmulti =>
          simp only [Bool.and_eq_true, Bool.not_eq_true', decide_eq_true_eq] at hmulti
          obtain ⟨hcontrols, hsingles⟩ := hmulti
          refine ⟨calm_of_longestRun hsingles, fun c hc => ?_⟩
          by_cases hquote : c = '\''
          · exact Or.inl hquote
          · by_cases hline : c = '\n'
            · exact Or.inr (Or.inl hline)
            · refine Or.inr (Or.inr ?_)
              exact isLiteralChar_of_not_control (not_control_of_any hcontrols c hc) hline hquote
        · split at h <;> cases h

theorem string_basic {t : List Char} (h : ∀ r, t ≠ '"' :: '"' :: r) :
    string? fuel ('"' :: t) = basic? fuel [] t := by
  unfold string?
  split
  · next r heq => exact absurd (List.cons.inj heq).2 (h r)
  · next r heq => rw [(List.cons.inj heq).2]
  · next heq => exact absurd (List.cons.inj heq).1 (by decide)
  · next heq => exact absurd (List.cons.inj heq).1 (by decide)
  · next _ hother _ _ => exact absurd rfl (hother t)

theorem string_literal {t : List Char} (h : ∀ r, t ≠ '\'' :: '\'' :: r) :
    string? fuel ('\'' :: t) = literal? t := by
  unfold string?
  split
  · next heq => exact absurd (List.cons.inj heq).1 (by decide)
  · next heq => exact absurd (List.cons.inj heq).1 (by decide)
  · next r heq => exact absurd (List.cons.inj heq).2 (h r)
  · next r heq => rw [(List.cons.inj heq).2]
  · next _ _ _ hother => exact absurd rfl (hother t)

theorem skipFirstLineEnd_of_ne (hline : x ≠ '\n') (hreturn : x ≠ '\r') (rest : List Char) :
    skipFirstLineEnd (x :: rest) = x :: rest := by
  unfold skipFirstLineEnd newline?
  split
  · next heq => exact absurd (List.cons.inj heq).1 hline
  · next heq => exact absurd (List.cons.inj heq).1 hreturn
  · rfl

/-- A line end in front makes sure that none of the text is passed over. -/
theorem skipFirstLineEnd_start {t : List Char}
    (h : cs.contains '\n' = false → ∃ x rest, t = x :: rest ∧ x ≠ '\n' ∧ x ≠ '\r') :
    skipFirstLineEnd ((if cs.contains '\n' then ['\n'] else []) ++ t) = t := by
  cases hlines : cs.contains '\n' with
  | true => rfl
  | false =>
    obtain ⟨x, rest, rfl, hline, hreturn⟩ := h hlines
    exact skipFirstLineEnd_of_ne hline hreturn rest

/-- A text without line ends does not begin with one between double quotes. -/
theorem escapeFrom_head (hlines : cs.contains '\n' = false) (t : List Char) :
    ∃ x rest, escapeFrom true 0 [] cs ++ '"' :: t = x :: rest ∧ x ≠ '\n' ∧ x ≠ '\r' := by
  cases cs with
  | nil => exact ⟨'"', t, rfl, by decide, by decide⟩
  | cons c cs =>
    have hc : c ≠ '\n' := by
      rintro rfl
      simp at hlines
    by_cases hquote : c = '"'
    · rw [hquote, escapeFrom_quote (by decide)]
      exact ⟨'"', _, rfl, by decide, by decide⟩
    · rw [escapeFrom_escaped (fun h => hquote h.1)]
      rcases escaped_spec true c with ⟨hline, _, _⟩ | ⟨e, he, _⟩ | ⟨he, hbasic, _, _⟩
      · exact absurd hline hc
      · rw [he]
        exact ⟨'\\', _, rfl, by decide, by decide⟩
      · rw [he]
        refine ⟨c, _, rfl, hc, ?_⟩
        rintro rfl
        exact absurd hbasic (by decide)

theorem basic_head (cs t : List Char) :
    ∀ r, escapeFrom false 0 [] cs ++ '"' :: '\n' :: t ≠ '"' :: '"' :: r := by
  intro r heq
  cases cs with
  | nil => exact absurd (List.cons.inj (List.cons.inj heq).2).1 (by decide)
  | cons c cs =>
    obtain ⟨x, e, he, hx⟩ := escaped_head false c
    rw [escapeFrom_escaped (by simp), he] at heq
    exact hx (List.cons.inj heq).1

theorem literal_head (h : ∀ c ∈ cs, isLiteralChar c = true) (t : List Char) :
    ∀ r, cs ++ '\'' :: '\n' :: t ≠ '\'' :: '\'' :: r := by
  intro r heq
  cases cs with
  | nil => exact absurd (List.cons.inj (List.cons.inj heq).2).1 (by decide)
  | cons c cs =>
    have hc := h c List.mem_cons_self
    rw [(List.cons.inj heq).1] at hc
    exact absurd hc (by decide)

/-- A text without line ends does not begin with one between single quotes. -/
theorem multiLiteral_head (h : ∀ c ∈ cs, c = '\'' ∨ c = '\n' ∨ isLiteralChar c = true)
    (hlines : cs.contains '\n' = false) (t : List Char) :
    ∃ x rest, cs ++ '\'' :: t = x :: rest ∧ x ≠ '\n' ∧ x ≠ '\r' := by
  cases cs with
  | nil => exact ⟨'\'', t, rfl, by decide, by decide⟩
  | cons c cs =>
    refine ⟨c, cs ++ '\'' :: t, rfl, ?_, ?_⟩
    · rintro rfl
      simp at hlines
    · rintro rfl
      exact absurd (h '\r' List.mem_cons_self) (by decide)

/-- A written text reads as the text. -/
theorem string_quoted (s : String) (hfuel : s.toList.length < fuel) (rest : List Char) :
    string? fuel ((quoted s).toList ++ '\n' :: rest) = some (s, '\n' :: rest) := by
  have htext : String.ofList s.toList = s := String.ofList_toList
  unfold quoted
  dsimp only
  rw [String.toList_ofList]
  generalize s.toList = cs at htext hfuel
  subst htext
  cases hstyle : styleOf cs with
  | basic =>
    simp only [List.cons_append, List.append_assoc, List.nil_append]
    rw [string_basic (basic_head cs rest)]
    exact basic_read hfuel
  | literal =>
    have hchars := literal_of_style hstyle
    simp only [List.cons_append, List.append_assoc, List.nil_append]
    rw [string_literal (literal_head hchars rest), literal_read hchars]
  | multiBasic =>
    simp only [List.cons_append, List.append_assoc, List.nil_append]
    show multiBasic? fuel [] (skipFirstLineEnd _) = _
    rw [skipFirstLineEnd_start fun hlines => escapeFrom_head hlines _]
    exact multiBasic_read hfuel (Nat.zero_le 2) (by decide)
  | multiLiteral =>
    obtain ⟨hcalm, hchars⟩ := multiLiteral_of_style hstyle
    simp only [List.cons_append, List.append_assoc, List.nil_append]
    show multiLiteral? fuel [] (skipFirstLineEnd _) = _
    rw [skipFirstLineEnd_start fun hlines => multiLiteral_head hchars hlines _]
    exact multiLiteral_read hfuel (Nat.zero_le 2) hcalm hchars (by decide)

/-- The written form is no shorter than the text. -/
theorem length_quoted (s : String) : s.toList.length ≤ (quoted s).toList.length := by
  have hescape : ∀ (multi : Bool) (cs : List Char) (run : Nat),
      cs.length ≤ (escapeFrom multi run [] cs).length := by
    intro multi cs
    induction cs with
    | nil => exact fun _ => Nat.zero_le _
    | cons c cs ih =>
      intro run
      by_cases h : c = '"' ∧ multi = true ∧ run < 2
      · obtain ⟨rfl, rfl, hrun⟩ := h
        rw [escapeFrom_quote hrun]
        exact Nat.succ_le_succ (ih _)
      · obtain ⟨x, e, he, _⟩ := escaped_head multi c
        have hcs := ih 0
        rw [escapeFrom_escaped h, he]
        simp only [List.length_cons, List.length_append]
        omega
  have hmulti := hescape true s.toList 0
  have hsingle := hescape false s.toList 0
  unfold quoted
  dsimp only
  rw [String.toList_ofList]
  cases styleOf s.toList with
  | basic => simp; omega
  | literal => simp; omega
  | multiBasic => simp; omega
  | multiLiteral => simp; omega

/-- The written form begins with a quote. -/
theorem quoted_head (s : String) :
    ∃ t, (quoted s).toList = '"' :: t ∨ (quoted s).toList = '\'' :: t := by
  unfold quoted
  dsimp only
  rw [String.toList_ofList]
  cases styleOf s.toList with
  | basic => exact ⟨_, Or.inl rfl⟩
  | literal => exact ⟨_, Or.inr rfl⟩
  | multiBasic => exact ⟨_, Or.inl rfl⟩
  | multiLiteral => exact ⟨_, Or.inr rfl⟩

end DeviceGateway.Toml
