import DeviceGateway.Files.Assets
import DeviceGateway.Proofs.Files.Tree
import DeviceGateway.Proofs.Text.Parts

/-
  Static files stay below their root. A path that is resolved is the root and, below it, names that
  lead down alone (`components_under`, `isName_of_isPlain`), so a walk along it ends below the place
  of the root (`walk_under`, `walk_eq_of_ok`). And a file below the root is found by its names
  (`walk_names`), with any number of slashes in front of them (`relative_slashes`).
-/

namespace DeviceGateway.Files

variable {t : Tree} {place : List String} {path root rest : String}

/-! ## Paths and their components -/

/-- The pieces of a path between slashes, empty ones included. -/
def pieces (path : String) : List String := (Text.splitOn '/' path.toList).map String.ofList

/-- Does the piece lead anywhere? -/
def leads (piece : String) : Bool := piece ≠ "." && piece ≠ ""

/-- The components of a path: its pieces but for empty ones and single points. -/
def components (path : String) : List String := (pieces path).filter leads

/-- Is the text the name of a file? -/
structure IsName (name : String) : Prop where
  ne_empty : name ≠ ""
  ne_point : name ≠ "."
  ne_points : name ≠ ".."
  plain : ∀ c ∈ name.toList, c ≠ '/' ∧ c ≠ '\\' ∧ c ≠ '\x00'

theorem pieces_ne_nil (path : String) : pieces path ≠ [] :=
  fun h => Text.splitOn_ne_nil '/' path.toList (List.map_eq_nil_iff.mp h)

/-- A slash between two paths. -/
theorem pieces_slash (root rest : String) :
    pieces (root ++ "/" ++ rest) = pieces root ++ pieces rest := by
  unfold pieces
  rw [String.toList_append, String.toList_append, List.append_assoc]
  show List.map _ (Text.splitOn '/' (root.toList ++ '/' :: rest.toList)) = _
  rw [Text.splitOn_append_sep, List.map_append]

theorem mem_pieces {piece : String} (h : piece ∈ pieces path) :
    ∀ c ∈ piece.toList, c ∈ path.toList ∧ c ≠ '/' := by
  intro c hc
  obtain ⟨part, hpart, rfl⟩ := List.mem_map.mp h
  exact Text.mem_splitOn.mp ⟨part, hpart, by simpa using hc⟩

/-- A root ends in a slash of its own, or gets one. -/
theorem under_cases (root rest : String) :
    (root = "" ∧ under root rest = rest) ∨
    (∃ front, root = front ++ "/" ++ "" ∧ under root rest = front ++ "/" ++ rest) ∨
    under root rest = root ++ "/" ++ rest := by
  unfold under
  by_cases hempty : root = ""
  · exact .inl ⟨hempty, by simp [hempty]⟩
  · by_cases hslash : root.toList.getLast? = some '/'
    · obtain ⟨front, hfront⟩ := List.getLast?_eq_some_iff.mp hslash
      have hroot : root = String.ofList front ++ "/" ++ "" := by
        rw [← String.toList_inj, hfront]
        simp
      refine .inr (.inl ⟨String.ofList front, hroot, ?_⟩)
      rw [if_pos (by simp [hslash])]
      conv => lhs; rw [hroot]
      simp
    · exact .inr (.inr (if_neg (by simp [hempty, hslash])))

/-- What is put below a root comes after its components. -/
theorem components_under (root rest : String) :
    components (under root rest) = components root ++ components rest := by
  unfold components
  rcases under_cases root rest with ⟨rfl, h⟩ | ⟨front, rfl, h⟩ | h
  · rw [h]
    rfl
  · rw [h, pieces_slash, pieces_slash, List.filter_append, List.filter_append,
      show (pieces "").filter leads = [] from rfl, List.append_nil]
  · rw [h, pieces_slash, List.filter_append]

/-! ## Plain paths -/

theorem isPlain_iff : isPlain path = true ↔
    '\\' ∉ path.toList ∧ '\x00' ∉ path.toList ∧ (pieces path).head? ≠ some "." ∧
      ".." ∉ pieces path := by
  have hpiece : ∀ cs : List Char, String.ofList cs ∈ pieces path ↔
      cs ∈ Text.splitOn '/' path.toList := by
    intro cs
    unfold pieces
    rw [List.mem_map]
    exact ⟨fun ⟨x, hx, heq⟩ => String.ofList_injective heq ▸ hx, fun h => ⟨cs, h, rfl⟩⟩
  have hhead : (pieces path).head? ≠ some "." ↔
      (Text.splitOn '/' path.toList).head? ≠ some ['.'] := by
    unfold pieces
    rw [List.head?_map, Ne, Option.map_eq_some_iff]
    exact not_congr ⟨fun ⟨x, hx, heq⟩ => hx.trans (congrArg some (String.ofList_injective heq)),
      fun h => ⟨_, h, rfl⟩⟩
  unfold isPlain
  rw [show (".." : String) = String.ofList ['.', '.'] from rfl, hpiece, hhead]
  simp [and_assoc]

/-- The components of a plain path are names. -/
theorem isName_of_isPlain (h : isPlain path = true) : ∀ name ∈ components path, IsName name := by
  obtain ⟨hback, hnul, -, hup⟩ := isPlain_iff.mp h
  intro name hname
  obtain ⟨hpiece, hleads⟩ := List.mem_filter.mp hname
  simp only [leads, Bool.and_eq_true, decide_eq_true_eq] at hleads
  refine ⟨hleads.2, hleads.1, fun heq => hup (heq ▸ hpiece), fun c hc => ?_⟩
  obtain ⟨hmem, hslash⟩ := mem_pieces hpiece c hc
  exact ⟨hslash, fun heq => hback (heq ▸ hmem), fun heq => hnul (heq ▸ hmem)⟩

/-- What a request asks for does not begin with a slash. -/
theorem relative_front (path : String) : ∃ c cs, (relative path).toList = c :: cs ∧ c ≠ '/' := by
  unfold relative
  cases hdrop : path.toList.dropWhile (· = '/') with
  | nil => exact ⟨'i', "ndex.html".toList, rfl, by decide⟩
  | cons c cs =>
    have hc := List.head?_dropWhile_not (· = '/') path.toList
    rw [hdrop] at hc
    exact ⟨c, cs, String.toList_ofList, by simpa using hc⟩

/-- The first piece of a path that does not begin with a slash is not empty. -/
theorem pieces_front {c : Char} {cs : List Char} (hpath : path.toList = c :: cs) (hc : c ≠ '/') :
    ∃ piece more, pieces path = piece :: more ∧ piece ≠ "" := by
  unfold pieces
  rw [hpath, Text.splitOn]
  cases Text.splitOn '/' cs with
  | nil => exact ⟨_, [], rfl, by simp⟩
  | cons p ps =>
    dsimp only
    rw [if_neg hc]
    exact ⟨_, _, rfl, by simp⟩

/-- A path that is empty, or begins with a slash, has an empty piece. -/
theorem empty_mem_pieces (h : ∀ c ∈ path.toList.head?, c = '/') : "" ∈ pieces path := by
  unfold pieces
  cases hpath : path.toList with
  | nil => exact List.mem_cons_self
  | cons c cs =>
    obtain rfl : c = '/' := h c (by rw [hpath]; rfl)
    rw [Text.splitOn_sep]
    exact List.mem_cons_self

/-- A plain path that a request asks for leads somewhere. -/
theorem components_relative (h : isPlain (relative path) = true) :
    components (relative path) ≠ [] := by
  obtain ⟨-, -, hpoint, -⟩ := isPlain_iff.mp h
  obtain ⟨c, cs, hfront, hc⟩ := relative_front path
  obtain ⟨piece, more, hpieces, hne⟩ := pieces_front hfront hc
  rw [hpieces] at hpoint
  have hleads : leads piece = true := by
    simpa [leads, hne] using hpoint
  unfold components
  rw [hpieces, List.filter_cons_of_pos hleads]
  exact List.cons_ne_nil _ _

/-! ## Walks -/

/-- An empty piece in front of others changes nothing. -/
theorem walk_empty (t : Tree) (place : List String) {ps : List String} (hps : ps ≠ []) :
    t.walk place ("" :: ps) = t.walk place ps := by
  obtain ⟨p, more, rfl⟩ := List.exists_cons_of_ne_nil hps
  rw [Tree.walk_cons, Tree.next]
  cases hplace : t.at? place with
  | none =>
    rw [Tree.walk_cons, Tree.next, hplace]
    rfl
  | some e =>
    cases e with
    | file body =>
      rw [Tree.walk_cons, Tree.next, hplace]
      rfl
    | directory => rfl

/-- A walk below a root goes on from the place of the root. -/
theorem walk_under (t : Tree) (root rest : String) : t.walk [] (pieces (under root rest)) =
    (t.walk [] (pieces root)).bind fun place => t.walk place (pieces rest) := by
  have hrest := pieces_ne_nil rest
  rw [← Tree.walk_append]
  rcases under_cases root rest with ⟨rfl, h⟩ | ⟨front, rfl, h⟩ | h
  · rw [h]
    exact (walk_empty t [] hrest).symm
  · rw [h, pieces_slash, pieces_slash, List.append_assoc, Tree.walk_append, Tree.walk_append]
    exact congrArg _ (funext fun place => (walk_empty t place hrest).symm)
  · rw [h, pieces_slash]

/-- A walk that goes up nowhere goes down along its components. -/
theorem walk_eq_of_ok {ps q : List String} (hup : ".." ∉ ps) (h : t.walk place ps = .ok q) :
    q = place ++ ps.filter leads := by
  induction ps generalizing place with
  | nil =>
    rw [List.filter_nil, List.append_nil]
    exact (Except.ok.inj h).symm
  | cons p ps ih =>
    obtain ⟨hp, hps⟩ := List.ne_and_not_mem_of_not_mem_cons hup
    rw [Tree.walk_cons] at h
    obtain ⟨mid, hnext, hwalk⟩ := bind_eq_ok.mp h
    rw [ih hps hwalk]
    unfold Tree.next at hnext
    split at hnext
    · split at hnext
      · next hstay =>
        have hleads : ¬ leads p = true := by
          simpa [leads, or_iff_not_imp_left] using hstay
        rw [List.filter_cons_of_neg hleads, ← Except.ok.inj hnext]
      · next hgo =>
        have hleads : leads p = true := by
          simpa [leads] using hgo
        rw [if_neg (Ne.symm hp)] at hnext
        split at hnext
        · cases hnext
        · split at hnext
          · rw [List.filter_cons_of_pos hleads, ← Except.ok.inj hnext, List.append_assoc]
            rfl
          · cases hnext
    · cases hnext
    · cases hnext

/-! ## Files below a root -/

/-- Is the tree one that a system holds: is nothing below a file, and no name too long? -/
structure Tree.Lawful (t : Tree) : Prop where
  leaf : ∀ e ∈ t.entries, e.2 ≠ .directory → ∀ e' ∈ t.entries, e.1 <+: e'.1 → e'.1 = e.1
  short : ∀ e ∈ t.entries, ∀ name ∈ e.1, utf8Size name ≤ maxPartLength

theorem mem_of_at? {body : Bytes} (h : t.at? place = some (.file body)) :
    (place, .file body) ∈ t.entries := by
  unfold Tree.at? at h
  split at h
  · next q e hfind =>
    have hq : q = place := by simpa using List.find?_some hfind
    rw [← hq, ← Option.some.inj h]
    exact List.mem_of_find?_eq_some hfind
  · split at h <;> cases h

/-- On the way to a file are directories. -/
theorem Tree.Lawful.directory {body : Bytes} {more : List String} (ht : t.Lawful)
    (h : t.at? (place ++ more) = some (.file body)) (hmore : more ≠ []) :
    t.at? place = some .directory := by
  have hmem := mem_of_at? h
  have hprefix : place <+: place ++ more := List.prefix_append _ _
  unfold Tree.at?
  split
  · next q e hfind =>
    have hq : q = place := by simpa using List.find?_some hfind
    subst hq
    by_cases he : e = .directory
    · rw [he]
    · have heq := ht.leaf _ (List.mem_of_find?_eq_some hfind) he _ hmem hprefix
      exact absurd (List.append_right_eq_self.mp heq) hmore
  · have hany : (t.entries.any fun e => place.isPrefixOf e.1) = true :=
      List.any_eq_true.mpr ⟨_, hmem, List.isPrefixOf_iff_prefix.mpr hprefix⟩
    rw [if_pos (by rw [hany, Bool.or_true])]

/-- A file is found by the names that lead to it. -/
theorem walk_names {body : Bytes} {names : List String} (ht : t.Lawful)
    (hnames : ∀ n ∈ names, IsName n) (h : t.at? (place ++ names) = some (.file body)) :
    t.walk place names = .ok (place ++ names) := by
  induction names generalizing place with
  | nil =>
    rw [List.append_nil]
    rfl
  | cons name names ih =>
    obtain ⟨hname, hnames⟩ := List.forall_mem_cons.mp hnames
    have hat : t.at? (place ++ [name] ++ names) = some (.file body) := by
      rw [List.append_assoc]
      exact h
    have hpresent : (t.at? (place ++ [name])).isSome = true := by
      cases names with
      | nil =>
        rw [List.append_nil] at hat
        rw [hat]
        rfl
      | cons n ns =>
        rw [ht.directory hat (List.cons_ne_nil n ns)]
        rfl
    have hshort := ht.short _ (mem_of_at? h) name
      (List.mem_append_right place List.mem_cons_self)
    have hfree : name ∉ ["", ".", ".."] := by
      simp [hname.ne_empty, hname.ne_point, hname.ne_points]
    rw [Tree.walk_cons,
      Tree.next_name (ht.directory h (List.cons_ne_nil _ _)) hfree hshort hpresent]
    show t.walk (place ++ [name]) names = _
    rw [ih hnames hat, List.append_assoc]
    rfl

/-! ## Names -/

/-- A path of names is plain. -/
theorem isPlain_of_names {name : String} (hname : ∀ n ∈ pieces name, IsName n) :
    isPlain name = true := by
  have hchar : ∀ c ∈ name.toList, c = '/' ∨ (c ≠ '\\' ∧ c ≠ '\x00') := by
    intro c hc
    by_cases hslash : c = '/'
    · exact .inl hslash
    · obtain ⟨part, hpart, hmem⟩ := Text.mem_splitOn.mpr ⟨hc, hslash⟩
      exact .inr ((hname _ (List.mem_map_of_mem hpart)).plain c (by simpa using hmem)).2
  refine isPlain_iff.mpr ⟨fun h => ?_, fun h => ?_, fun h => ?_, fun h => ?_⟩
  · exact ((hchar _ h).resolve_left (by decide)).1 rfl
  · exact ((hchar _ h).resolve_left (by decide)).2 rfl
  · exact (hname _ (List.mem_of_mem_head? h)).ne_point rfl
  · exact (hname _ h).ne_points rfl

/-- A path of names is asked for as it stands, whatever slashes come before it. -/
theorem relative_slashes {name : String} (hname : ∀ n ∈ pieces name, IsName n) (slashes : Nat) :
    relative (String.ofList (List.replicate slashes '/') ++ name) = name := by
  have hhead : ¬ ∀ c ∈ name.toList.head?, c = '/' := fun h =>
    (hname _ (empty_mem_pieces h)).ne_empty rfl
  obtain ⟨c, cs, hfront, hc⟩ : ∃ c cs, name.toList = c :: cs ∧ c ≠ '/' := by
    cases hlist : name.toList with
    | nil => simp [hlist] at hhead
    | cons c cs => exact ⟨c, cs, rfl, by simpa [hlist] using hhead⟩
  unfold relative
  rw [String.toList_append, String.toList_ofList,
    List.dropWhile_append_of_pos (by simp +contextual), hfront,
    List.dropWhile_cons_of_neg (by simpa using hc)]
  dsimp only
  rw [if_neg (by simp), ← hfront, String.ofList_toList]

theorem relative_replicate (slashes : Nat) :
    relative (String.ofList (List.replicate slashes '/')) = "index.html" := by
  unfold relative
  rw [String.toList_ofList, List.dropWhile_eq_nil_iff.mpr (by simp +contextual)]
  rfl

/-! ## Static files -/

theorem resolve_some (root path : String) : resolve? (some root) path =
    if isPlain (relative path) then some (under root (relative path)) else none := rfl

/-- What is served is the file at the path that the request leads to. -/
theorem asset_body {files : Tree} {root : Option String} {body : Bytes} :
    (asset? files root path).map (·.body) = some body ↔
      ∃ file, resolve? root path = some file ∧ files.read file = .ok body := by
  unfold asset? Tree.read
  cases resolve? root path with
  | none => simp
  | some file =>
    simp only [Option.bind_some, Option.some.injEq, exists_eq_left']
    cases files.lookup file with
    | error e => simp
    | ok e => cases e <;> simp

/-- What is served lies below the place of the root, where the components of the path lead. -/
theorem place_of_asset {files : Tree} {asset : Asset} (hplain : isPlain (relative path) = true)
    (h : asset? files (some root) path = some asset) :
    ∃ place, files.walk [] (pieces root) = .ok place ∧
      files.at? (place ++ components (relative path)) = some (.file asset.body) := by
  obtain ⟨-, -, -, hup⟩ := isPlain_iff.mp hplain
  obtain ⟨file, hfile, hread⟩ := asset_body.mp (congrArg (Option.map (·.body)) h)
  obtain rfl : under root (relative path) = file := by
    rw [resolve_some, if_pos hplain] at hfile
    exact Option.some.inj hfile
  obtain ⟨q, -, hwalk, hat⟩ := Tree.read_eq_ok.mp hread
  obtain ⟨place, hplace, hrest⟩ := bind_eq_ok.mp ((walk_under files root _).symm.trans hwalk)
  rw [walk_eq_of_ok hup hrest] at hat
  exact ⟨place, hplace, hat⟩

/-- A file below the place of the root is read by its names, when the system takes the path. -/
theorem read_under {files : Tree} {name : String} {body : Bytes} (hfiles : files.Lawful)
    (hname : ∀ n ∈ pieces name, IsName n) (hpath : checkPath (under root name) = .ok ())
    (hplace : files.walk [] (pieces root) = .ok place)
    (hat : files.at? (place ++ pieces name) = some (.file body)) :
    files.read (under root name) = .ok body := by
  refine Tree.read_eq_ok.mpr ⟨_, hpath, (walk_under files root name).trans ?_, hat⟩
  rw [hplace]
  exact walk_names hfiles hname hat

/-- Without a root nothing is served. A path that is resolved is the root with the components of
what is asked for below it, one at least, each of them a name; so what is served is a file below the
place that the root leads to. And a file there whose path below the root is made of names is served
with its octets, whatever slashes come before its name, when the system takes the path; slashes
alone ask for `index.html`. -/
theorem assets_stay_below (files : Tree) (root : String) :
    (∀ path, asset? files none path = none) ∧
    (∀ path file, resolve? (some root) path = some file →
      file = under root (relative path) ∧
      components file = components root ++ components (relative path) ∧
      components (relative path) ≠ [] ∧ ∀ name ∈ components (relative path), IsName name) ∧
    (∀ path asset, asset? files (some root) path = some asset →
      ∃ place names, files.walk [] (pieces root) = .ok place ∧
        files.at? (place ++ names) = some (.file asset.body) ∧
        names ≠ [] ∧ ∀ name ∈ names, IsName name) ∧
    (∀ name, (∀ n ∈ pieces name, IsName n) → ∀ slashes,
      let path := String.ofList (List.replicate slashes '/') ++ name
      (∀ body, (asset? files (some root) path).map (·.body) = some body ↔
        files.read (under root name) = .ok body) ∧
      ∀ place body, files.Lawful → checkPath (under root name) = .ok () →
        files.walk [] (pieces root) = .ok place →
        files.at? (place ++ pieces name) = some (.file body) →
        (asset? files (some root) path).map (·.body) = some body) ∧
    ∀ slashes, asset? files (some root) (String.ofList (List.replicate slashes '/')) =
      asset? files (some root) "index.html" := by
  refine ⟨fun _ => rfl, fun path file hfile => ?_, fun path asset hasset => ?_,
    fun name hname slashes => ?_, fun slashes => ?_⟩
  · rw [resolve_some] at hfile
    split at hfile
    · next hplain =>
      cases hfile
      exact ⟨rfl, components_under root _, components_relative hplain, isName_of_isPlain hplain⟩
    · cases hfile
  · have hplain : isPlain (relative path) = true := by
      by_contra hnot
      unfold asset? at hasset
      rw [resolve_some, if_neg hnot] at hasset
      cases hasset
    obtain ⟨place, hplace, hat⟩ := place_of_asset hplain hasset
    exact ⟨place, _, hplace, hat, components_relative hplain, isName_of_isPlain hplain⟩
  · have hfound : ∀ body, (asset? files (some root)
        (String.ofList (List.replicate slashes '/') ++ name)).map (·.body) = some body ↔
          files.read (under root name) = .ok body := by
      intro body
      rw [asset_body, resolve_some, relative_slashes hname, if_pos (isPlain_of_names hname)]
      simp
    exact ⟨hfound, fun place body hfiles hpath hplace hat =>
      (hfound body).mpr (read_under hfiles hname hpath hplace hat)⟩
  · unfold asset?
    rw [resolve_some, relative_replicate]
    rfl

/-- A site, and a secret beside it. -/
def site : Tree where
  entries := [(["www", "index.html"], .file [104, 105]), (["www", "css", "site.css"], .file [98]),
    (["www-old", "secret"], .file [120])]

/-- A style sheet is served below slashes, and nothing of the directory beside the site. -/
theorem site_stays_below :
    (asset? site (some "www") "//css/site.css").map (·.body) = some [98] ∧
    asset? site (some "www") "/../www-old/secret" = none ∧
    ∃ place names, site.walk [] (pieces "www") = .ok place ∧ names = ["css", "site.css"] ∧
      site.at? (place ++ names) = some (.file [98]) := by
  have hname : ∀ n ∈ pieces "css/site.css", IsName n := by
    intro n hn
    obtain rfl | rfl : n = "css" ∨ n = "site.css" := by
      simpa [pieces, Text.splitOn] using hn
    · exact ⟨by decide, by decide, by decide, by simp⟩
    · exact ⟨by decide, by decide, by decide, by simp⟩
  obtain ⟨-, -, -, hfound, -⟩ := assets_stay_below site "www"
  have hserved := (hfound "css/site.css" hname 2).2 ["www"] [98] ⟨by decide, by decide⟩ (by decide)
    (by decide) (by decide)
  exact ⟨hserved, by decide, ["www"], _, by decide, rfl, by decide⟩

end DeviceGateway.Files
