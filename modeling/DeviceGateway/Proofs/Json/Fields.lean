import DeviceGateway.Json.Basic
import Mathlib.Data.List.Induction

/-
  Fields of objects. Setting a key makes it read as set and leaves every other key alone; the keys
  stay in ascending order (`insert_sorted`), and setting one that is there moves none
  (`keys_insert`). Fields in order are told by what their keys read as (`eq_of_get?_eq`), so it
  makes no difference whether pairs are set in turn or from the last one on, each unless its key is
  there (`ofLatest_reverse`).
-/

namespace DeviceGateway.Fields

variable {key k : String} {value v : Json} {fs : Fields}

/-! ## Reading -/

/-- A key that was set reads as it was set; the others read as before. -/
theorem get?_insert (key k : String) (value : Json) (fs : Fields) :
    get? k (insert key value fs) = if key = k then some value else get? k fs := by
  induction fs with
  | nil => rfl
  | cons e fs ih =>
    obtain ⟨n, v⟩ := e
    unfold insert
    by_cases hlt : key < n
    · rw [if_pos hlt]
      rfl
    · rw [if_neg hlt]
      by_cases heq : key = n
      · rw [if_pos heq]
        subst heq
        unfold get?
        by_cases hk : key = k
        · rw [if_pos hk, if_pos hk]
        · rw [if_neg hk, if_neg hk, if_neg hk]
      · rw [if_neg heq]
        unfold get?
        by_cases hn : n = k
        · have hne : key ≠ k := fun h => heq (h.trans hn.symm)
          rw [if_pos hn, if_neg hne, if_pos hn]
        · rw [if_neg hn, if_neg hn, ih]

theorem get?_insert_self (key : String) (value : Json) (fs : Fields) :
    get? key (insert key value fs) = some value := by
  rw [get?_insert, if_pos rfl]

theorem get?_insert_of_ne (h : key ≠ k) (value : Json) (fs : Fields) :
    get? k (insert key value fs) = get? k fs := by
  rw [get?_insert, if_neg h]

theorem get?_cons (k n : String) (v : Json) (fs : Fields) :
    get? k ((n, v) :: fs) = if n = k then some v else get? k fs := rfl

/-- A key that was taken out is not there; the others read as before. -/
theorem get?_erase (key k : String) (fs : Fields) :
    get? k (erase key fs) = if key = k then none else get? k fs := by
  induction fs with
  | nil => exact (ite_self none).symm
  | cons e fs ih =>
    obtain ⟨n, v⟩ := e
    unfold erase at ih ⊢
    rw [List.filter_cons, get?_cons]
    by_cases hn : n = key
    · rw [if_neg (by simp [hn]), ih, hn]
      by_cases hk : key = k
      · rw [if_pos hk, if_pos hk]
      · rw [if_neg hk, if_neg hk, if_neg hk]
    · rw [if_pos (by simp [hn]), get?_cons, ih]
      by_cases hk : key = k
      · rw [if_pos hk, if_pos hk, if_neg fun hnk => hn (hnk.trans hk.symm)]
      · rw [if_neg hk, if_neg hk]

theorem get?_erase_of_ne (h : key ≠ k) (fs : Fields) : get? k (erase key fs) = get? k fs := by
  rw [get?_erase, if_neg h]

/-! ## Keys -/

/-- Are the keys in ascending order? -/
def Sorted (fs : Fields) : Prop := fs.Pairwise fun a b => a.1 < b.1

theorem mem_insert {e : String × Json} (h : e ∈ insert key value fs) :
    e = (key, value) ∨ e ∈ fs := by
  induction fs with
  | nil => exact Or.inl (List.mem_singleton.mp h)
  | cons e' fs ih =>
    obtain ⟨n, v⟩ := e'
    unfold insert at h
    split at h
    · exact (List.mem_cons.mp h).imp_right id
    · split at h
      · exact (List.mem_cons.mp h).imp_right (List.mem_cons_of_mem _)
      · rcases List.mem_cons.mp h with h | h
        · exact Or.inr (h ▸ List.mem_cons_self)
        · exact (ih h).imp_right (List.mem_cons_of_mem _)

theorem lt_of_not_lt {a b : String} (h : ¬ a < b) (hne : a ≠ b) : b < a :=
  Decidable.byContradiction fun h' =>
    hne (String.le_antisymm (String.not_lt.mp h') (String.not_lt.mp h))

theorem insert_sorted (key : String) (value : Json) (h : fs.Sorted) :
    (insert key value fs).Sorted := by
  induction fs with
  | nil => exact List.pairwise_singleton _ _
  | cons e fs ih =>
    obtain ⟨n, v⟩ := e
    obtain ⟨hhead, htail⟩ := List.pairwise_cons.mp h
    unfold insert
    by_cases hlt : key < n
    · rw [if_pos hlt]
      refine List.pairwise_cons.mpr ⟨?_, h⟩
      intro e he
      rcases List.mem_cons.mp he with rfl | he
      · exact hlt
      · exact String.lt_trans hlt (hhead e he)
    · rw [if_neg hlt]
      by_cases heq : key = n
      · rw [if_pos heq]
        subst heq
        exact List.pairwise_cons.mpr ⟨hhead, htail⟩
      · rw [if_neg heq]
        refine List.pairwise_cons.mpr ⟨?_, ih htail⟩
        intro e he
        rcases mem_insert he with rfl | he
        · exact lt_of_not_lt hlt heq
        · exact hhead e he

/-- Setting a key unless it is there changes nothing, or sets it. -/
theorem insertNew_cases (key : String) (value : Json) (fs : Fields) :
    insertNew key value fs = fs ∨ insertNew key value fs = insert key value fs := by
  induction fs with
  | nil => exact Or.inr rfl
  | cons e fs ih =>
    obtain ⟨n, v⟩ := e
    unfold insertNew insert
    by_cases hlt : key < n
    · rw [if_pos hlt, if_pos hlt]
      exact Or.inr rfl
    · rw [if_neg hlt, if_neg hlt]
      by_cases heq : key = n
      · rw [if_pos heq]
        exact Or.inl rfl
      · rw [if_neg heq, if_neg heq]
        exact ih.imp (congrArg _) (congrArg _)

theorem ofLatest_sorted (pairs : List (String × Json)) : (ofLatest pairs).Sorted := by
  have hfold : ∀ fs : Fields, fs.Sorted →
      (pairs.foldl (fun fs p => insertNew p.1 p.2 fs) fs).Sorted := by
    induction pairs with
    | nil => exact fun _ h => h
    | cons p pairs ih =>
      intro fs h
      rw [List.foldl_cons]
      apply ih
      rcases insertNew_cases p.1 p.2 fs with heq | heq
      · rw [heq]
        exact h
      · rw [heq]
        exact insert_sorted p.1 p.2 h
  exact hfold [] List.Pairwise.nil

theorem exists_of_get? (h : (get? key fs).isSome = true) : ∃ e ∈ fs, e.1 = key := by
  induction fs with
  | nil => cases h
  | cons e fs ih =>
    unfold get? at h
    by_cases heq : e.1 = key
    · exact ⟨e, List.mem_cons_self, heq⟩
    · rw [if_neg heq] at h
      obtain ⟨e', he, hkey⟩ := ih h
      exact ⟨e', List.mem_cons_of_mem e he, hkey⟩

/-- Setting a key that is there gives its field another value, and leaves the others. -/
theorem insert_eq_map (value : Json) (h : fs.Sorted) (hkey : (get? key fs).isSome = true) :
    insert key value fs = fs.map fun f => if f.1 = key then (key, value) else f := by
  induction fs with
  | nil => cases hkey
  | cons e fs ih =>
    obtain ⟨n, v⟩ := e
    obtain ⟨hhead, htail⟩ := List.pairwise_cons.mp h
    unfold get? at hkey
    unfold insert
    rw [List.map_cons]
    by_cases heq : n = key
    · subst heq
      have hothers : ∀ f ∈ fs, (if f.1 = n then (n, value) else f) = f :=
        fun f hf => if_neg fun heq : f.1 = n => String.lt_irrefl n (heq ▸ hhead f hf)
      rw [if_neg (String.lt_irrefl n), if_pos rfl, if_pos rfl, List.map_congr_left hothers,
        List.map_id']
    · rw [if_neg heq] at hkey
      obtain ⟨e, he, rfl⟩ := exists_of_get? hkey
      rw [if_neg (String.lt_asymm (hhead e he)), if_neg (Ne.symm heq), if_neg heq, ih htail hkey]

/-- It leaves the keys as they are. -/
theorem keys_insert (value : Json) (h : fs.Sorted) (hkey : (get? key fs).isSome = true) :
    (insert key value fs).map (·.1) = fs.map (·.1) := by
  rw [insert_eq_map value h hkey, List.map_map]
  refine List.map_congr_left fun f _ => ?_
  by_cases heq : f.1 = key
  · exact (congrArg Prod.fst (if_pos heq)).trans heq.symm
  · exact congrArg Prod.fst (if_neg heq)

/-! ## Several keys set in turn -/

/-- The fields with pairs set in turn. -/
def setAll (pairs : List (String × Json)) (fs : Fields) : Fields :=
  pairs.foldl (fun fs p => insert p.1 p.2 fs) fs

/-- The value that pairs give a key last. -/
def lastValue (key : String) (pairs : List (String × Json)) : Option Json :=
  ((pairs.filter (·.1 = key)).getLast?).map (·.2)

variable {pairs : List (String × Json)}

theorem lastValue_append (key : String) (p : String × Json) :
    lastValue key (pairs ++ [p]) = if p.1 = key then some p.2 else lastValue key pairs := by
  unfold lastValue
  rw [List.filter_append]
  by_cases h : p.1 = key
  · rw [if_pos h, List.filter_cons_of_pos (by simp [h])]
    simp
  · rw [if_neg h, List.filter_cons_of_neg (by simp [h])]
    simp

theorem setAll_append (p : String × Json) (fs : Fields) :
    setAll (pairs ++ [p]) fs = insert p.1 p.2 (setAll pairs fs) := by
  unfold setAll
  rw [List.foldl_append]
  rfl

/-- A key reads as it was set last. -/
theorem get?_setAll (key : String) (pairs : List (String × Json)) :
    get? key (setAll pairs []) = lastValue key pairs := by
  induction pairs using List.reverseRecOn with
  | nil => rfl
  | append_singleton pairs p ih => rw [setAll_append, lastValue_append, get?_insert, ih]

theorem setAll_sorted (pairs : List (String × Json)) : (setAll pairs []).Sorted := by
  induction pairs using List.reverseRecOn with
  | nil => exact List.Pairwise.nil
  | append_singleton pairs p ih =>
    rw [setAll_append]
    exact insert_sorted p.1 p.2 ih

/-- The fields are among the pairs. -/
theorem mem_setAll {e : String × Json} (h : e ∈ setAll pairs []) : e ∈ pairs := by
  induction pairs using List.reverseRecOn with
  | nil => exact h
  | append_singleton pairs p ih =>
    rw [setAll_append] at h
    rcases mem_insert h with rfl | h
    · exact List.mem_append_right pairs List.mem_cons_self
    · exact List.mem_append_left _ (ih h)

/-! ## Pairs from the last one on -/

theorem get?_eq_none (h : ∀ e ∈ fs, key < e.1) : get? key fs = none := by
  cases hget : get? key fs with
  | none => rfl
  | some v =>
    obtain ⟨e, he, rfl⟩ := exists_of_get? (by rw [hget]; rfl)
    exact absurd (h e he) (String.lt_irrefl e.1)

/-- Fields in order are told by what their keys read as. -/
theorem eq_of_get?_eq {gs : Fields} (hfs : fs.Sorted) (hgs : gs.Sorted)
    (h : ∀ key, get? key fs = get? key gs) : fs = gs := by
  induction fs generalizing gs with
  | nil =>
    cases gs with
    | nil => rfl
    | cons e gs =>
      have hget := h e.1
      rw [get?_cons, if_pos rfl] at hget
      cases hget
  | cons e fs ih =>
    cases gs with
    | nil =>
      have hget := h e.1
      rw [get?_cons, if_pos rfl] at hget
      cases hget
    | cons e' gs =>
      obtain ⟨n, v⟩ := e
      obtain ⟨n', v'⟩ := e'
      obtain ⟨hhead, htail⟩ := List.pairwise_cons.mp hfs
      obtain ⟨hhead', htail'⟩ := List.pairwise_cons.mp hgs
      -- the first key of either is a key of the other, so neither is less than the other
      obtain rfl : n = n' := by
        by_contra hne
        have hn := h n
        have hn' := h n'
        rw [get?_cons, get?_cons, if_pos rfl, if_neg (Ne.symm hne)] at hn
        rw [get?_cons, get?_cons, if_neg hne, if_pos rfl] at hn'
        obtain ⟨e, he, hkey⟩ := exists_of_get? (by rw [← hn]; rfl)
        obtain ⟨e', he', hkey'⟩ := exists_of_get? (by rw [hn']; rfl)
        have hlt : n' < n := hkey ▸ hhead' e he
        have hlt' : n < n' := hkey' ▸ hhead e' he'
        exact String.lt_asymm hlt hlt'
      have hv := h n
      rw [get?_cons, get?_cons, if_pos rfl, if_pos rfl] at hv
      obtain rfl := Option.some.inj hv
      refine congrArg _ (ih htail htail' fun key => ?_)
      by_cases hkey : n = key
      · rw [get?_eq_none (hkey ▸ hhead), get?_eq_none (hkey ▸ hhead')]
      · have hget := h key
        rw [get?_cons, get?_cons, if_neg hkey, if_neg hkey] at hget
        exact hget

/-- A key that was set unless it was there reads as before if it did. -/
theorem get?_insertNew (h : fs.Sorted) (key k : String) (value : Json) :
    get? k (insertNew key value fs) =
      (get? k fs).or (if key = k then some value else none) := by
  induction fs with
  | nil => rfl
  | cons e fs ih =>
    obtain ⟨n, v⟩ := e
    obtain ⟨hhead, htail⟩ := List.pairwise_cons.mp h
    unfold insertNew
    by_cases hlt : key < n
    · rw [if_pos hlt, get?_cons]
      by_cases hk : key = k
      · have hnone : get? k ((n, v) :: fs) = none :=
          get?_eq_none (List.forall_mem_cons.mpr
            ⟨hk ▸ hlt, fun e he => String.lt_trans (hk ▸ hlt) (hhead e he)⟩)
        rw [if_pos hk, if_pos hk, hnone]
        rfl
      · rw [if_neg hk, if_neg hk, Option.or_none]
    · rw [if_neg hlt]
      by_cases heq : key = n
      · rw [if_pos heq, get?_cons]
        by_cases hk : n = k
        · rw [if_pos hk]
          rfl
        · rw [if_neg hk, if_neg fun hkey => hk (heq.symm.trans hkey), Option.or_none]
      · rw [if_neg heq, get?_cons, get?_cons, ih htail]
        by_cases hk : n = k
        · rw [if_pos hk, if_pos hk]
          rfl
        · rw [if_neg hk, if_neg hk]

theorem lastValue_cons (key : String) (p : String × Json) :
    lastValue key (p :: pairs) =
      (lastValue key pairs).or (if p.1 = key then some p.2 else none) := by
  unfold lastValue
  rw [List.filter_cons]
  by_cases h : p.1 = key
  · rw [if_pos (by simpa using h), if_pos h, List.getLast?_cons]
    cases (pairs.filter (·.1 = key)).getLast? <;> rfl
  · rw [if_neg (by simpa using h), if_neg h, Option.or_none]

/-- Pairs that are set from the last one on, each unless its key is there, are the pairs set in
turn. -/
theorem ofLatest_reverse (pairs : List (String × Json)) :
    ofLatest pairs.reverse = setAll pairs [] := by
  refine eq_of_get?_eq (ofLatest_sorted _) (setAll_sorted pairs) fun key => ?_
  rw [get?_setAll]
  unfold ofLatest
  rw [List.foldl_reverse]
  induction pairs with
  | nil => rfl
  | cons p pairs ih =>
    have hsorted : Sorted (pairs.foldr (fun p fs => insertNew p.1 p.2 fs) []) := by
      rw [← List.foldl_reverse]
      exact ofLatest_sorted _
    rw [List.foldr_cons, get?_insertNew hsorted, ih, lastValue_cons]

/-- Fields in order are the pairs that they are made of. -/
theorem setAll_self (h : fs.Sorted) : setAll fs [] = fs := by
  rw [← ofLatest_reverse]
  unfold ofLatest
  rw [List.foldl_reverse]
  induction fs with
  | nil => rfl
  | cons f fs ih =>
    obtain ⟨hhead, htail⟩ := List.pairwise_cons.mp h
    rw [List.foldr_cons, ih htail]
    cases fs with
    | nil => rfl
    | cons g gs => exact if_pos (hhead g List.mem_cons_self)

end DeviceGateway.Fields
