import DeviceGateway.Files.Tree
import DeviceGateway.Proofs.Outcome

/-
  What writing and making directories do to a tree of files. Putting an entry leaves every other
  place as it was, or makes it a directory on the way to the new one (`at?_put_of_ne`). A walk that
  succeeds still does when directories stay and nothing vanishes (`Grows.walk`). So a file that was
  written is read back (`read_write`), and making directories leaves all files as they were and to
  be found (`makeDirectories_extends`, `Extends.read`).
-/

namespace DeviceGateway.Files.Tree

variable {t t' t'' : Tree} {place : List String} {path : String} {body : Bytes}

/-! ## Single places -/

@[simp] theorem at?_put_self (t : Tree) (place : List String) (e : Entry) :
    (t.put place e).at? place = some e := by
  rw [at?, put, List.find?_cons_of_pos (by simp)]

/-- Another place is as it was, or has become a directory on the way. -/
theorem at?_put_of_ne {q : List String} (hne : q ≠ place) (e : Entry) :
    (t.put place e).at? q = t.at? q ∨
      (t.at? q = none ∧ (t.put place e).at? q = some .directory) := by
  have hfind : (t.put place e).entries.find? (·.1 = q) = t.entries.find? (·.1 = q) := by
    rw [put, List.find?_cons_of_neg (by simpa using Ne.symm hne), List.find?_filter]
    refine congrArg (t.entries.find? ·) (funext fun x => ?_)
    by_cases hx : x.1 = q
    · simp [hx, hne]
    · simp [hx]
  have hany : t.entries.any (fun x => q.isPrefixOf x.1) = true →
      (t.put place e).entries.any (fun x => q.isPrefixOf x.1) = true := by
    intro h
    obtain ⟨x, hx, hprefix⟩ := List.any_eq_true.mp h
    by_cases hplace : x.1 = place
    · exact List.any_eq_true.mpr ⟨(place, e), List.mem_cons_self, hplace ▸ hprefix⟩
    · exact List.any_eq_true.mpr
        ⟨x, List.mem_cons_of_mem _ (List.mem_filter.mpr ⟨hx, by simpa using hplace⟩), hprefix⟩
  rw [at?, at?, hfind]
  cases t.entries.find? (·.1 = q) with
  | some x => exact .inl rfl
  | none =>
    by_cases h : (q.isEmpty || t.entries.any fun x => q.isPrefixOf x.1) = true
    · have h' : (q.isEmpty || (t.put place e).entries.any fun x => q.isPrefixOf x.1) = true := by
        rcases Bool.or_eq_true_iff.mp h with hempty | hsome
        · rw [hempty, Bool.true_or]
        · rw [hany hsome, Bool.or_true]
      rw [if_pos h, if_pos h']
      exact .inl rfl
    · by_cases h' : (q.isEmpty || (t.put place e).entries.any fun x => q.isPrefixOf x.1) = true
      · rw [if_neg h, if_pos h']
        exact .inr ⟨rfl, rfl⟩
      · rw [if_neg h, if_neg h']
        exact .inl rfl

/-! ## Walks -/

/-- One part of a walk. -/
def next (t : Tree) (place : List String) (part : String) : Except FileError (List String) :=
  match t.at? place with
  | some .directory =>
    if part = "." || part = "" then .ok place
    else if part = ".." then .ok place.dropLast
    else if maxPartLength < utf8Size part then .error .nameTooLong
    else
      match t.at? (place ++ [part]) with
      | some _ => .ok (place ++ [part])
      | none => .error .notFound
  | some (.file _) => .error .notDirectory
  | none => .error .notFound

theorem walk_cons (t : Tree) (place : List String) (part : String) (rest : List String) :
    t.walk place (part :: rest) = (t.next place part).bind fun q => t.walk q rest := by
  rw [walk, next]
  cases t.at? place with
  | none => rfl
  | some e =>
    cases e with
    | file body => rfl
    | directory =>
      dsimp only
      split
      · rfl
      · split
        · rfl
        · split
          · rfl
          · cases t.at? (place ++ [part]) with
            | none => rfl
            | some e => rfl

theorem walk_append (t : Tree) (place : List String) (parts rest : List String) :
    t.walk place (parts ++ rest) = (t.walk place parts).bind fun q => t.walk q rest := by
  induction parts generalizing place with
  | nil => rfl
  | cons part parts ih =>
    rw [List.cons_append, walk_cons, walk_cons]
    cases t.next place part with
    | error e => rfl
    | ok q => exact ih q

theorem next_name {name : String} (hplace : t.at? place = some .directory)
    (hname : name ∉ ["", ".", ".."]) (hlength : utf8Size name ≤ maxPartLength)
    (hpresent : (t.at? (place ++ [name])).isSome) : t.next place name = .ok (place ++ [name]) := by
  simp only [List.mem_cons, List.not_mem_nil, or_false, not_or] at hname
  obtain ⟨hempty, hpoint, hpoints⟩ := hname
  obtain ⟨e, he⟩ := Option.isSome_iff_exists.mp hpresent
  rw [next, hplace]
  simp only [hempty, hpoint, hpoints, decide_false, Bool.or_self, Bool.false_eq_true, if_false,
    if_neg (Nat.not_lt.mpr hlength), he]

/-- Empty parts in front of one that is not empty change nothing. -/
theorem walk_filter (t : Tree) (place : List String) (parts : List String) (name : String) :
    t.walk place (parts ++ [name]) = t.walk place (parts.filter (· ≠ "") ++ [name]) := by
  induction parts generalizing place with
  | nil => rfl
  | cons part parts ih =>
    by_cases hpart : part = ""
    · rw [List.filter_cons_of_neg (by simp [hpart]), List.cons_append, walk_cons, hpart]
      obtain ⟨x, xs, hrest⟩ : ∃ x xs, parts.filter (· ≠ "") ++ [name] = x :: xs :=
        List.exists_cons_of_ne_nil (by simp)
      cases hplace : t.at? place with
      | none =>
        rw [next, hrest, walk_cons, next, hplace]
        rfl
      | some e =>
        cases e with
        | file body =>
          rw [next, hrest, walk_cons, next, hplace]
          rfl
        | directory =>
          rw [next, hplace]
          exact ih place
    · rw [List.filter_cons_of_pos (by simpa using hpart), List.cons_append, List.cons_append,
        walk_cons, walk_cons]
      exact congrArg _ (funext fun q => ih q)

/-- Directories stay, and nothing vanishes. -/
structure Grows (t t' : Tree) : Prop where
  directories : ∀ q, t.at? q = some .directory → t'.at? q = some .directory
  present : ∀ q, (t.at? q).isSome → (t'.at? q).isSome

theorem Grows.next (h : Grows t t') {part : String} {q : List String}
    (hnext : t.next place part = .ok q) : t'.next place part = .ok q := by
  rw [Tree.next] at hnext ⊢
  split at hnext
  · next hplace =>
    rw [h.directories place hplace]
    dsimp only
    split at hnext
    · next hstay => rwa [if_pos hstay]
    · next hstay =>
      rw [if_neg hstay]
      split at hnext
      · next hup => rwa [if_pos hup]
      · next hup =>
        rw [if_neg hup]
        split at hnext
        · cases hnext
        · next hshort =>
          rw [if_neg hshort]
          split at hnext
          · next hthere =>
            obtain ⟨e, he⟩ := Option.isSome_iff_exists.mp (h.present _ (by rw [hthere]; rfl))
            rwa [he]
          · cases hnext
  · cases hnext
  · cases hnext

theorem Grows.walk (h : Grows t t') {parts : List String} {q : List String}
    (hwalk : t.walk place parts = .ok q) : t'.walk place parts = .ok q := by
  induction parts generalizing place with
  | nil => exact hwalk
  | cons part rest ih =>
    rw [walk_cons] at hwalk ⊢
    cases hnext : t.next place part with
    | error e =>
      rw [hnext] at hwalk
      cases hwalk
    | ok mid =>
      rw [hnext] at hwalk
      rw [h.next hnext]
      exact ih hwalk

/-! ## Paths -/

/-- A text that does not end in the separator has a last part that is not empty. -/
theorem splitOn_last {sep c : Char} (hc : c ≠ sep) (cs : List Char) :
    ∃ front last, Text.splitOn sep (cs ++ [c]) = front ++ [last ++ [c]] := by
  induction cs with
  | nil => exact ⟨[], [], by simp [Text.splitOn, hc]⟩
  | cons d cs ih =>
    obtain ⟨front, last, hsplit⟩ := ih
    by_cases hd : d = sep
    · cases front with
      | nil => exact ⟨[[]], last, by simp [Text.splitOn, hsplit, hd]⟩
      | cons p ps => exact ⟨[] :: p :: ps, last, by simp [Text.splitOn, hsplit, hd]⟩
    · cases front with
      | nil => exact ⟨[], d :: last, by simp [Text.splitOn, hsplit, hd]⟩
      | cons p ps => exact ⟨(d :: p) :: ps, last, by simp [Text.splitOn, hsplit, hd]⟩

/-- The parts of a path that does not end in a slash: the last one is not empty, whatever stands in
front of it. -/
theorem parts_last (hpath : path ≠ "") (hslash : path.toList.getLast? ≠ some '/') :
    ∃ front name, name ≠ "" ∧
      (Text.splitOn '/' path.toList).map String.ofList = front ++ [name] ∧
      parts path = front.filter (· ≠ "") ++ [name] := by
  obtain ⟨cs, c, hcs⟩ : ∃ cs c, path.toList = cs ++ [c] := by
    rcases List.eq_nil_or_concat path.toList with h | ⟨cs, c, h⟩
    · exact absurd (String.toList_eq_nil_iff.mp h) hpath
    · exact ⟨cs, c, h.trans List.concat_eq_append⟩
  have hc : c ≠ '/' := by
    rintro rfl
    exact hslash (by rw [hcs, List.getLast?_append]; rfl)
  obtain ⟨front, last, hsplit⟩ := splitOn_last hc cs
  have hfilter (pieces : List (List Char)) : (pieces.filter (!·.isEmpty)).map String.ofList =
      (pieces.map String.ofList).filter (· ≠ "") := by
    rw [List.filter_map]
    refine congrArg (List.map _) (List.filter_congr fun p _ => ?_)
    cases p with
    | nil => rfl
    | cons x xs => simp
  refine ⟨front.map String.ofList, String.ofList (last ++ [c]), by simp, ?_, ?_⟩
  · rw [hcs, hsplit, List.map_append]
    rfl
  · rw [parts, hcs, hsplit, hfilter, List.map_append, List.filter_append]
    simp

/-! ## Reading and writing -/

/-- What is read is the file at the place that the path leads to. -/
theorem read_eq_ok : t.read path = .ok body ↔
    ∃ q, checkPath path = .ok () ∧
      t.walk [] ((Text.splitOn '/' path.toList).map String.ofList) = .ok q ∧
      t.at? q = some (.file body) := by
  have hlookup : t.read path = .ok body ↔ t.lookup path = .ok (.file body) := by
    rw [read]
    cases t.lookup path with
    | error e => exact ⟨nofun, nofun⟩
    | ok e =>
      cases e with
      | file b =>
        exact ⟨fun h => congrArg (fun b => Except.ok (Entry.file b)) (Except.ok.inj h),
          fun h => congrArg Except.ok (Entry.file.inj (Except.ok.inj h))⟩
      | directory => exact ⟨nofun, nofun⟩
  rw [hlookup, lookup]
  constructor
  · intro h
    obtain ⟨_, hchecked, h⟩ := bind_eq_ok.mp h
    obtain ⟨q, hwalk, h⟩ := bind_eq_ok.mp h
    split at h
    · next e hat =>
      rw [Except.ok.inj h] at hat
      exact ⟨q, hchecked, hwalk, hat⟩
    · cases h
  · rintro ⟨q, hchecked, hwalk, hat⟩
    refine bind_eq_ok.mpr ⟨(), hchecked, bind_eq_ok.mpr ⟨q, hwalk, ?_⟩⟩
    rw [hat]
    rfl

/-- A path leads to a place for a file: its directory is there, and no directory has its name. -/
structure Target (t : Tree) (path : String) (parent : List String) (name : String) : Prop where
  checked : checkPath path = .ok ()
  last : (parts path).getLast? = some name
  walked : t.walk [] (parts path).dropLast = .ok parent
  directory : t.at? parent = some .directory
  named : name ≠ "." ∧ name ≠ ".."
  noSlash : path.toList.getLast? ≠ some '/'
  short : utf8Size name ≤ maxPartLength
  free : t.at? (parent ++ [name]) ≠ some .directory

/-- A file is written where its path leads to, or not at all. -/
theorem write_eq_ok : t.write path body = .ok t' ↔
    ∃ parent name, Target t path parent name ∧ t' = t.put (parent ++ [name]) (.file body) := by
  constructor
  · intro h
    obtain ⟨_, hchecked, h⟩ := bind_eq_ok.mp h
    split at h
    · cases h
    · next name hlast =>
      obtain ⟨parent, hwalked, h⟩ := bind_eq_ok.mp h
      split at h
      · next hdirectory =>
        split at h
        · cases h
        · next hname =>
          split at h
          · cases h
          · next hshort =>
            split at h
            · cases h
            · next hfree =>
              simp only [Bool.or_eq_true, decide_eq_true_eq, not_or] at hname
              exact ⟨parent, name, ⟨hchecked, hlast, hwalked, hdirectory, hname.1, hname.2,
                Nat.le_of_not_lt hshort, hfree⟩, (Except.ok.inj h).symm⟩
      · cases h
  · rintro ⟨parent, name, h, rfl⟩
    have hname : ¬ (decide (name = ".") || decide (name = "..") ||
        decide (path.toList.getLast? = some '/')) = true := by
      simp [h.named, h.noSlash]
    rw [write, h.checked, h.last]
    simp only [bind, Except.bind, pure, Except.pure, h.walked, h.directory, if_neg hname,
      if_neg (Nat.not_lt.mpr h.short), if_neg h.free]

theorem Target.grows {parent : List String} {name : String} (h : Target t path parent name) :
    Grows t (t.put (parent ++ [name]) (.file body)) where
  directories q hq := by
    have hne : q ≠ parent ++ [name] := by
      rintro rfl
      exact h.free hq
    rcases at?_put_of_ne hne (.file body) with heq | ⟨hnone, -⟩
    · rw [heq, hq]
    · rw [hnone] at hq
      cases hq
  present q hq := by
    by_cases hplace : q = parent ++ [name]
    · rw [hplace, at?_put_self]
      rfl
    · rcases at?_put_of_ne hplace (.file body) with heq | ⟨-, hnew⟩
      · rwa [heq]
      · rw [hnew]
        rfl

/-- A file that was written is read back. -/
theorem read_write (h : t.write path body = .ok t') : t'.read path = .ok body := by
  obtain ⟨parent, name, htarget, rfl⟩ := write_eq_ok.mp h
  have hgrows : Grows t (t.put (parent ++ [name]) (.file body)) := htarget.grows
  have hpath : path ≠ "" := by
    rintro rfl
    cases htarget.checked
  obtain ⟨front, last, hlast, hpieces, hparts⟩ := parts_last hpath htarget.noSlash
  obtain rfl : last = name := by
    have hget := htarget.last
    rw [hparts, List.getLast?_append] at hget
    exact Option.some.inj hget
  have hwalked := htarget.walked
  rw [hparts, List.dropLast_concat] at hwalked
  have hnext : (t.put (parent ++ [last]) (.file body)).next parent last =
      .ok (parent ++ [last]) :=
    next_name (hgrows.directories _ htarget.directory)
      (by simp [hlast, htarget.named.1, htarget.named.2]) htarget.short (by simp)
  refine read_eq_ok.mpr ⟨parent ++ [last], htarget.checked, ?_, at?_put_self _ _ _⟩
  rw [hpieces, walk_filter, walk_append, hgrows.walk hwalked, Except.bind, walk_cons, hnext]
  rfl

/-! ## Making directories -/

/-- A tree goes on as another one: its directories stay, and its files are just those of before. -/
structure Extends (t t' : Tree) : Prop where
  directories : ∀ q, t.at? q = some .directory → t'.at? q = some .directory
  files : ∀ q body, t'.at? q = some (.file body) ↔ t.at? q = some (.file body)

theorem Extends.refl (t : Tree) : Extends t t := ⟨fun _ h => h, fun _ _ => Iff.rfl⟩

theorem Extends.trans (h : Extends t t') (h' : Extends t' t'') : Extends t t'' :=
  ⟨fun q hq => h'.directories q (h.directories q hq),
    fun q body => (h'.files q body).trans (h.files q body)⟩

theorem Extends.grows (h : Extends t t') : Grows t t' where
  directories := h.directories
  present q hq := by
    obtain ⟨e, he⟩ := Option.isSome_iff_exists.mp hq
    cases e with
    | file body => rw [(h.files q body).mpr he]; rfl
    | directory => rw [h.directories q he]; rfl

/-- A file that is found is still found, with what it held. -/
theorem Extends.read (h : Extends t t') (hread : t.read path = .ok body) :
    t'.read path = .ok body := by
  obtain ⟨q, hchecked, hwalk, hat⟩ := read_eq_ok.mp hread
  exact read_eq_ok.mpr ⟨q, hchecked, h.grows.walk hwalk, (h.files q body).mpr hat⟩

theorem put_extends (hplace : t.at? place = none) : Extends t (t.put place .directory) where
  directories q hq := by
    have hne : q ≠ place := by
      rintro rfl
      rw [hplace] at hq
      cases hq
    rcases at?_put_of_ne hne .directory with heq | ⟨-, hnew⟩
    · rwa [heq]
    · exact hnew
  files q body := by
    by_cases hq : q = place
    · rw [hq, at?_put_self, hplace]
      exact ⟨nofun, nofun⟩
    · rcases at?_put_of_ne hq .directory with heq | ⟨hnone, hnew⟩
      · rw [heq]
      · rw [hnone, hnew]
        exact ⟨nofun, nofun⟩

theorem makeDirectory_extends {parts : List String} (h : t.makeDirectory parts = .ok t') :
    Extends t t' := by
  unfold makeDirectory at h
  split at h
  · cases h
  · obtain ⟨parent, -, h⟩ := bind_eq_ok.mp h
    split at h
    · split at h
      · cases h
      · split at h
        · cases h
        · split at h
          · cases h
          · next hfree =>
            rw [← Except.ok.inj h]
            exact put_extends (Option.not_isSome_iff_eq_none.mp hfree)
    · cases h

theorem ensureDirectory_extends (t : Tree) (parts : List String) :
    Extends t (t.ensureDirectory parts).1 := by
  unfold ensureDirectory
  split
  · next h => exact makeDirectory_extends h
  · exact Extends.refl t

/-- Making directories, as far as it comes, leaves all files as they were. -/
theorem makeDirectories_extends (t : Tree) (fuel : Nat) (parts : List String) :
    Extends t (t.makeDirectories fuel parts).1 := by
  induction fuel generalizing parts with
  | zero => exact Extends.refl t
  | succ n ih =>
    unfold makeDirectories
    split
    · exact Extends.refl t
    · split
      · have hway := ih parts.dropLast
        split
        · next heq =>
          rw [heq] at hway
          exact hway.trans (ensureDirectory_extends _ parts)
        · next heq =>
          rw [heq] at hway
          exact hway
      · exact ensureDirectory_extends t parts

end DeviceGateway.Files.Tree
