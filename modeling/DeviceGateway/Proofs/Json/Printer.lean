import DeviceGateway.Json.Printer

/-
  The text of a value. What is written of a value does not depend on what is written
  before it (`write_eq`), so the text of a list or an object is put together from the texts of what
  is in it (`text_arr`, `text_obj`), and an object's text begins with its first key and that key's
  value (`text_obj_cons`); and a quoted string tells where it ends (`eq_of_quoted_prefix`).
-/

namespace DeviceGateway.Json

mutual

/-- What is written of a value goes in front of what is written already, whatever that is. -/
theorem write_eq (done : List Char) : (j : Json) → write done j = write [] j ++ done
  | .null => rfl
  | .bool true => rfl
  | .bool false => rfl
  | .int n => by
    unfold write
    rw [List.reverseAux_eq, List.reverseAux_eq, List.append_nil]
  | .float x => by
    unfold write
    rw [List.reverseAux_eq, List.reverseAux_eq, List.append_nil]
  | .str s => by
    unfold write
    rw [List.reverseAux_eq, List.reverseAux_eq, List.append_nil]
  | .arr items => by
    unfold write
    rw [writeItems_eq ('[' :: done) items, writeItems_eq ['['] items]
    simp
  | .obj fields => by
    unfold write
    rw [writeFields_eq ('\x7b' :: done) fields, writeFields_eq ['\x7b'] fields]
    simp

theorem writeItems_eq (done : List Char) : (items : List Json) →
    writeItems done items = writeItems [] items ++ done
  | [] => rfl
  | x :: xs => by
    unfold writeItems
    cases xs with
    | nil => exact write_eq done x
    | cons y ys =>
      dsimp only
      rw [writeItems_eq (',' :: write done x) (y :: ys),
        writeItems_eq (',' :: write [] x) (y :: ys), write_eq done x]
      simp

theorem writeFields_eq (done : List Char) : (fields : List (String × Json)) →
    writeFields done fields = writeFields [] fields ++ done
  | [] => rfl
  | (k, v) :: fs => by
    have hfield : ∀ done, write (':' :: (quoted k).reverseAux done) v =
        write [] v ++ ':' :: (quoted k).reverse ++ done := by
      intro done
      rw [write_eq, List.reverseAux_eq]
      simp
    unfold writeFields
    cases fs with
    | nil =>
      dsimp only
      rw [hfield, hfield []]
      simp
    | cons f gs =>
      dsimp only
      rw [writeFields_eq _ (f :: gs), writeFields_eq (',' :: write _ v) (f :: gs), hfield,
        hfield []]
      simp

end

/-- The characters of a value's text. -/
theorem text_toList (j : Json) : j.text.toList = (write [] j).reverse := by
  unfold text
  rw [String.toList_ofList]

theorem text_str (s : String) : (Json.str s).text.toList = quoted s := by
  rw [text_toList]
  unfold write
  rw [List.reverseAux_eq, List.append_nil, List.reverse_reverse]

theorem text_int (n : Int) : (Json.int n).text.toList = intChars n := by
  rw [text_toList]
  unfold write
  rw [List.reverseAux_eq, List.append_nil, List.reverse_reverse]

theorem writeItems_reverse (x : Json) (xs : List Json) :
    (writeItems [] (x :: xs)).reverse =
      x.text.toList ++ xs.flatMap fun y => ',' :: y.text.toList := by
  induction xs generalizing x with
  | nil =>
    rw [writeItems, text_toList, List.flatMap_nil, List.append_nil]
  | cons y ys ih =>
    rw [writeItems, writeItems_eq, List.reverse_append, ih, List.reverse_cons, ← text_toList,
      List.flatMap_cons, List.append_assoc]
    rfl

/-- The text of a list has a comma in front of each item but the first. -/
theorem text_arr (x : Json) (xs : List Json) : (Json.arr (x :: xs)).text.toList =
    '[' :: (x.text.toList ++ xs.flatMap (fun y => ',' :: y.text.toList)) ++ [']'] := by
  rw [text_toList, write, writeItems_eq, List.reverse_cons, List.reverse_append,
    writeItems_reverse]
  rfl

/-- The characters of a field. -/
def fieldChars (f : String × Json) : List Char := quoted f.1 ++ ':' :: f.2.text.toList

theorem writeFields_reverse (f : String × Json) (fs : List (String × Json)) :
    (writeFields [] (f :: fs)).reverse =
      fieldChars f ++ fs.flatMap fun g => ',' :: fieldChars g := by
  have hfield : ∀ f : String × Json,
      (write (':' :: (quoted f.1).reverseAux []) f.2).reverse = fieldChars f := by
    intro f
    rw [write_eq, List.reverseAux_eq, List.append_nil, List.reverse_append, ← text_toList,
      List.reverse_cons, List.reverse_reverse, List.append_assoc]
    rfl
  induction fs generalizing f with
  | nil =>
    rw [writeFields, hfield, List.flatMap_nil, List.append_nil]
  | cons g gs ih =>
    rw [writeFields, writeFields_eq, List.reverse_append, ih, List.reverse_cons, hfield,
      List.flatMap_cons, List.append_assoc]
    rfl

/-- The text of an object has a comma in front of each field but the first. -/
theorem text_obj (f : String × Json) (fs : List (String × Json)) :
    (Json.obj (f :: fs)).text.toList =
      '\x7b' :: (fieldChars f ++ fs.flatMap (fun g => ',' :: fieldChars g)) ++ ['\x7d'] := by
  rw [text_toList, write, writeFields_eq, List.reverse_cons, List.reverse_append,
    writeFields_reverse]
  rfl

/-- The text of an object begins with its first key and value. -/
theorem text_obj_cons (k : String) (v : Json) (fs : List (String × Json)) :
    ∃ rest, (Json.obj ((k, v) :: fs)).text.toList =
      '\x7b' :: (quoted k ++ ':' :: (v.text.toList ++ rest)) := by
  refine ⟨fs.flatMap (fun g => ',' :: fieldChars g) ++ ['\x7d'], ?_⟩
  rw [text_obj]
  simp [fieldChars]

/-! ## Quotes -/

/-- A character is escaped by a backslash, or stands for itself and is no quote. -/
theorem escape_cases (c : Char) :
    (escape c = [c] ∧ c ≠ '"') ∨ ∃ rest, escape c = '\\' :: rest := by
  unfold escape
  by_cases hquote : c = '"'
  · rw [if_pos hquote]
    exact Or.inr ⟨_, rfl⟩
  · rw [if_neg hquote]
    repeat' split
    all_goals first | exact Or.inr ⟨_, rfl⟩ | exact Or.inl ⟨rfl, hquote⟩

/-- Characters that need no escape and are followed by a quote are all of a string that begins with
them. -/
theorem eq_of_quoted_prefix {front cs more : List Char} (hquote : '"' ∉ front)
    (hslash : '\\' ∉ front) (h : front ++ ['"'] <+: cs.flatMap escape ++ '"' :: more) :
    cs = front := by
  induction front generalizing cs with
  | nil =>
    cases cs with
    | nil => rfl
    | cons c cs =>
      rw [List.flatMap_cons] at h
      rcases escape_cases c with ⟨heq, hc⟩ | ⟨rest, heq⟩
      · rw [heq] at h
        exact absurd (List.cons_prefix_cons.mp h).1.symm hc
      · rw [heq] at h
        exact absurd (List.cons_prefix_cons.mp h).1 (by decide)
  | cons f front ih =>
    obtain ⟨hf, hfront⟩ := List.ne_and_not_mem_of_not_mem_cons hquote
    obtain ⟨hf', hfront'⟩ := List.ne_and_not_mem_of_not_mem_cons hslash
    cases cs with
    | nil => exact absurd (List.cons_prefix_cons.mp h).1.symm hf
    | cons c cs =>
      rw [List.flatMap_cons] at h
      rcases escape_cases c with ⟨heq, hc⟩ | ⟨rest, heq⟩
      · rw [heq] at h
        obtain ⟨rfl, htail⟩ := List.cons_prefix_cons.mp h
        rw [ih hfront hfront' htail]
      · rw [heq] at h
        exact absurd (List.cons_prefix_cons.mp h).1.symm hf'

end DeviceGateway.Json
