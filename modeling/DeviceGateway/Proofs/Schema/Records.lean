import DeviceGateway.Schema.Data
import Mathlib.Data.List.Find

/-
  What becomes of the parts of a value that is taken for a record. A field that is given reads as
  the value that stands in its place (`read_of_given`), where no key stands twice; keys that are no
  field's are passed over, so the record is the same without them (`entries_known`). A field about
  which nothing is stated has its default, and any other just what is stated (`States.value`).
-/

namespace DeviceGateway.Schema

/-- Is this a value as a document of TOML may hold it: is nothing missing, and has no map a key
twice? -/
inductive Data.FromToml : Data → Prop
  | bool (b : Bool) : FromToml (.bool b)
  | int (n : Int) : FromToml (.int n)
  | float (text : String) : FromToml (.float text)
  | str (s : String) : FromToml (.str s)
  | moment : FromToml .moment
  | seq {items : List Data} (h : ∀ d ∈ items, FromToml d) : FromToml (.seq items)
  | map {entries : List (String × Data)} (hkeys : (entries.map (·.1)).Nodup)
      (h : ∀ e ∈ entries, FromToml e.2) : FromToml (.map entries)

namespace RecordRule

/-- The names of a record's fields. -/
def names (r : RecordRule) : List String := r.fields.map (·.name)

/-- What a value gives to the fields of a record: a map, the entries that have the name of a field;
a list, its items in order. -/
def given (r : RecordRule) : Data → List (String × Data)
  | .map es => es.filter (·.1 ∈ r.names)
  | .seq items => r.names.zip items
  | _ => []

/-- A value without the keys that are no field's. -/
def known (r : RecordRule) : Data → Data
  | .map es => .map (es.filter (·.1 ∈ r.names))
  | d => d

/-- Is a value of a document taken for a record with these entries? -/
structure Taken (r : RecordRule) (d : Data) (es : List (String × Data)) : Prop where
  names : r.names.Nodup
  fromToml : d.FromToml
  entries : r.entries .toml d = .ok es

variable {r : RecordRule} {d v : Data} {es : List (String × Data)} {format : Format}

/-! ## Fields that are given -/

/-- Entries are taken when all of them that have the name of a field fit it. -/
theorem checkEntries_eq_ok : r.checkEntries es = .ok () ↔
    ∀ e ∈ es, ∀ field, r.fields.find? (·.name = e.1) = some field → field.check e.2 = .ok () := by
  induction es with
  | nil => exact ⟨fun _ => List.forall_mem_nil _, fun _ => rfl⟩
  | cons e es ih =>
    obtain ⟨key, value⟩ := e
    rw [List.forall_mem_cons, checkEntries]
    cases hfind : r.fields.find? (·.name = key) with
    | none =>
      dsimp only
      rw [ih]
      refine ⟨fun h => ⟨fun f hf => ?_, h⟩, And.right⟩
      cases hf
    | some field =>
      dsimp only
      have hfits : (∀ f, some field = some f → f.check value = .ok ()) ↔
          field.check value = .ok () := by
        constructor
        · exact fun h => h field rfl
        · intro h f hf
          cases hf
          exact h
      rw [hfits]
      cases field.check value with
      | ok u =>
        dsimp only
        rw [ih]
        exact ⟨fun h => ⟨rfl, h⟩, And.right⟩
      | error m =>
        constructor
        · intro h
          cases h
        · intro h
          cases h.1

/-- A map is taken as its entries when they fit and none is missing. -/
theorem complete_eq_ok {es' : List (String × Data)} : r.complete es = .ok es' ↔
    r.checkEntries es = .ok () ∧
      (r.fields.find? fun f => f.required && !es.any (·.1 = f.name)) = none ∧ es = es' := by
  unfold complete
  cases r.checkEntries es with
  | error m =>
    constructor
    · intro h
      cases h
    · intro h
      cases h.1
  | ok u =>
    dsimp only [bind, Except.bind]
    cases r.fields.find? fun f => f.required && !es.any (·.1 = f.name) with
    | some f =>
      constructor
      · intro h
        cases h
      · intro h
        cases h.2.1
    | none =>
      dsimp only
      exact ⟨fun h => ⟨rfl, rfl, Except.ok.inj h⟩, fun h => congrArg Except.ok h.2.2⟩

/-- A map is taken as its entries when they fit their fields and none is missing. -/
theorem entries_of_fit
    (hfit : ∀ e ∈ es, ∀ field, r.fields.find? (·.name = e.1) = some field →
      field.check e.2 = .ok ())
    (hrequired : ∀ field ∈ r.fields, field.required = true → es.any (·.1 = field.name) = true) :
    r.entries .toml (.map es) = .ok es := by
  refine complete_eq_ok.mpr ⟨checkEntries_eq_ok.mpr hfit, ?_, rfl⟩
  refine List.find?_eq_none.mpr fun field hfield => ?_
  cases hreq : field.required with
  | false => simp
  | true => simp [hrequired field hfield hreq]

theorem keys_zip {α β : Type} (xs : List α) (ys : List β) :
    (xs.zip ys).map (·.1) <+: xs := by
  induction xs generalizing ys with
  | nil => exact List.nil_prefix
  | cons x xs ih =>
    cases ys with
    | nil => exact List.nil_prefix
    | cons y ys =>
      rw [List.zip_cons_cons, List.map_cons]
      exact List.cons_prefix_cons.mpr ⟨rfl, ih ys⟩

/-- The entries that are taken are among them all that are given, no key twice, and they fit. -/
theorem Taken.spec (h : r.Taken d es) :
    (∀ e ∈ r.given d, e ∈ es) ∧ (es.map (·.1)).Nodup ∧ r.checkEntries es = .ok () := by
  obtain ⟨hnames, hd, h⟩ := h
  cases hd with
  | map hkeys _ =>
    obtain ⟨hcheck, _, rfl⟩ := complete_eq_ok.mp h
    exact ⟨fun e he => (List.mem_filter.mp he).1, hkeys, hcheck⟩
  | moment =>
    obtain ⟨hcheck, _, rfl⟩ := complete_eq_ok.mp h
    exact ⟨List.forall_mem_nil _, List.nodup_nil, hcheck⟩
  | @seq items _ =>
    unfold RecordRule.entries at h
    dsimp only at h
    cases hcheck : r.checkEntries (r.names.zip items) with
    | error m =>
      unfold RecordRule.names at hcheck
      rw [hcheck] at h
      cases h
    | ok u =>
      unfold RecordRule.names at hcheck
      rw [hcheck] at h
      dsimp only [bind, Except.bind] at h
      split at h
      · cases h
      · have hes : r.names.zip items = es := Except.ok.inj h
        rw [← hes]
        exact ⟨fun e he => he, hnames.sublist (keys_zip r.names items).sublist, hcheck⟩
  | bool | int | float | str => cases h

theorem name_of_given {e : String × Data} (he : e ∈ r.given d) : e.1 ∈ r.names := by
  cases d with
  | map es => exact of_decide_eq_true (List.mem_filter.mp he).2
  | seq items => exact (List.of_mem_zip he).1
  | null | bool | int | float | str | moment => cases he

theorem Taken.fromToml_of_given {e : String × Data} (h : r.Taken d es) (he : e ∈ r.given d) :
    e.2.FromToml := by
  cases h.fromToml with
  | map _ hvalues => exact hvalues e (List.mem_filter.mp he).1
  | seq hitems => exact hitems e.2 (List.of_mem_zip he).2
  | moment | bool | int | float | str => cases he

/-- The value of a key that stands once is the one that is found. -/
theorem find_of_mem {key : String} (hkeys : (es.map (·.1)).Nodup) (hmem : (key, v) ∈ es) :
    es.find? (·.1 = key) = some (key, v) := by
  obtain ⟨before, after, rfl⟩ := List.append_of_mem hmem
  refine List.find?_eq_some_iff_append.mpr ⟨by simp, before, after, rfl, fun e he => ?_⟩
  rw [List.map_append, List.map_cons] at hkeys
  have hne := (List.nodup_append.mp hkeys).2.2 e.1 (List.mem_map_of_mem he) key
    List.mem_cons_self
  simpa using hne

/-- A field that is given reads as what the record has. -/
theorem Taken.read_of_given {α : Type} {read : Data → Except Mismatch α} {field : FieldRule}
    (h : r.Taken d es) (hfield : field ∈ r.fields) (hcheck : field.check = accepts read)
    (hgiven : (field.name, v) ∈ r.given d) (default : α) :
    read v = .ok (valueOr es field.name read default) := by
  obtain ⟨hall, hkeys, hfits⟩ := h.spec
  have hnames := h.names
  have hfound : r.fields.find? (·.name = field.name) = some field := by
    obtain ⟨before, after, hsplit⟩ := List.append_of_mem hfield
    refine List.find?_eq_some_iff_append.mpr ⟨by simp, before, after, hsplit, fun f hf => ?_⟩
    unfold RecordRule.names at hnames
    rw [hsplit, List.map_append, List.map_cons] at hnames
    have hne := (List.nodup_append.mp hnames).2.2 f.name (List.mem_map_of_mem hf) field.name
      List.mem_cons_self
    simpa using hne
  have hread : accepts read v = .ok () :=
    hcheck ▸ checkEntries_eq_ok.mp hfits _ (hall _ hgiven) field hfound
  unfold valueOr
  rw [find_of_mem hkeys (hall _ hgiven)]
  dsimp only
  unfold accepts at hread
  cases hvalue : read v with
  | ok a => rfl
  | error m =>
    rw [hvalue] at hread
    cases hread

/-- What is taken for a record is a map, a list or a moment. -/
theorem Taken.shape (h : r.Taken d es) :
    (∃ es', d = .map es') ∨ (∃ items, d = .seq items) ∨ d = .moment := by
  have hentries := h.entries
  cases d with
  | map es' => exact Or.inl ⟨es', rfl⟩
  | seq items => exact Or.inr (Or.inl ⟨items, rfl⟩)
  | moment => exact Or.inr (Or.inr rfl)
  | null | bool | int | float | str => cases hentries

/-! ## Keys that are no field's -/

theorem checkEntries_known (r : RecordRule) (es : List (String × Data)) :
    r.checkEntries (es.filter (·.1 ∈ r.names)) = r.checkEntries es := by
  induction es with
  | nil => rfl
  | cons e es ih =>
    obtain ⟨key, value⟩ := e
    by_cases hkey : key ∈ r.names
    · rw [List.filter_cons_of_pos (by simpa using hkey), checkEntries, checkEntries, ih]
    · have hnone : r.fields.find? (·.name = key) = none := by
        refine List.find?_eq_none.mpr fun field hfield => ?_
        have hne : field.name ≠ key := fun heq => hkey (heq ▸ List.mem_map_of_mem hfield)
        simpa using hne
      rw [List.filter_cons_of_neg (by simpa using hkey), ih, checkEntries, hnone]

/-- Entries are complete or not, and fit or not, whatever stands under other keys. -/
theorem complete_known (r : RecordRule) (es : List (String × Data)) :
    r.complete (es.filter (·.1 ∈ r.names)) =
      (r.complete es).map (List.filter (·.1 ∈ r.names)) := by
  have hany : ∀ f ∈ r.fields, (f.required && !(es.filter (·.1 ∈ r.names)).any (·.1 = f.name)) =
      (f.required && !es.any (·.1 = f.name)) := by
    intro f hf
    have hname : f.name ∈ r.names := List.mem_map_of_mem hf
    rw [List.any_filter]
    congr 3
    funext e
    by_cases he : e.1 = f.name
    · rw [he, decide_eq_true hname, Bool.true_and]
    · rw [decide_eq_false he, Bool.and_false]
  unfold complete
  rw [checkEntries_known, List.find?_congr hany]
  cases r.checkEntries es with
  | error m => rfl
  | ok u =>
    dsimp only [bind, Except.bind]
    cases r.fields.find? fun f => f.required && !es.any (·.1 = f.name) <;> rfl

/-- A value is taken for the same record without the keys that are no field's. -/
theorem entries_known (r : RecordRule) (format : Format) (d : Data) :
    r.entries format (r.known d) = (r.entries format d).map (List.filter (·.1 ∈ r.names)) := by
  cases d with
  | map es => exact complete_known r es
  | moment => exact complete_known r []
  | seq items =>
    have hall : (r.names.zip items).filter (·.1 ∈ r.names) = r.names.zip items :=
      List.filter_eq_self.mpr fun e he => decide_eq_true (List.of_mem_zip he).1
    unfold known entries
    dsimp only [bind, Except.bind]
    unfold names at hall ⊢
    split
    · rfl
    · split
      · rfl
      · split
        · rfl
        · exact congrArg Except.ok hall.symm
  | null | bool | int | float | str => rfl

theorem valueOr_known {α : Type} {read : Data → Except Mismatch α} {key : String}
    (hkey : key ∈ r.names) (es : List (String × Data)) (default : α) :
    valueOr (es.filter (·.1 ∈ r.names)) key read default = valueOr es key read default := by
  have hfind : (es.filter (·.1 ∈ r.names)).find? (·.1 = key) = es.find? (·.1 = key) := by
    rw [List.find?_filter]
    refine List.find?_congr fun e _ => ?_
    by_cases he : e.1 = key
    · simp [he, hkey]
    · simp [he]
  unfold valueOr
  rw [hfind]

/-- What reads no more of a record than its fields gives the same without other keys. -/
theorem bind_entries_known {α : Type} {build : List (String × Data) → Except Mismatch α}
    (hbuild : ∀ es, build (es.filter (·.1 ∈ r.names)) = build es) (format : Format) (d : Data) :
    (r.entries format (r.known d) >>= build) = (r.entries format d >>= build) := by
  rw [entries_known]
  cases r.entries format d with
  | error m => rfl
  | ok es => exact hbuild es

/-! ## Values that read alike -/

/-- The entries with every value replaced by one that reads alike. -/
def replaced (g : String → Data → Data) (es : List (String × Data)) : List (String × Data) :=
  es.map fun e => (e.1, g e.1 e.2)

variable {g : String → Data → Data}

theorem checkEntries_replaced
    (hg : ∀ field ∈ r.fields, ∀ v, field.check (g field.name v) = field.check v)
    (es : List (String × Data)) : r.checkEntries (replaced g es) = r.checkEntries es := by
  induction es with
  | nil => rfl
  | cons e es ih =>
    obtain ⟨key, value⟩ := e
    show r.checkEntries ((key, g key value) :: replaced g es) = _
    rw [checkEntries, checkEntries, ih]
    cases hfind : r.fields.find? (·.name = key) with
    | none => rfl
    | some field =>
      have hname : field.name = key := by simpa using List.find?_some hfind
      dsimp only
      rw [← hname, hg field (List.mem_of_find?_eq_some hfind)]

theorem complete_replaced
    (hg : ∀ field ∈ r.fields, ∀ v, field.check (g field.name v) = field.check v)
    (es : List (String × Data)) :
    r.complete (replaced g es) = (r.complete es).map (replaced g) := by
  have hany : ∀ f ∈ r.fields, (f.required && !(replaced g es).any (·.1 = f.name)) =
      (f.required && !es.any (·.1 = f.name)) := by
    intro f _
    unfold replaced
    rw [List.any_map]
    rfl
  unfold complete
  rw [checkEntries_replaced hg, List.find?_congr hany]
  cases r.checkEntries es with
  | error m => rfl
  | ok u =>
    dsimp only [bind, Except.bind]
    cases r.fields.find? fun f => f.required && !es.any (·.1 = f.name) <;> rfl

/-- What reads every value as the one in its place gives the same with either. -/
theorem bind_entries_replaced {α : Type} {build : List (String × Data) → Except Mismatch α}
    (hg : ∀ field ∈ r.fields, ∀ v, field.check (g field.name v) = field.check v)
    (hbuild : ∀ es, build (replaced g es) = build es) (format : Format)
    (es : List (String × Data)) :
    (r.entries format (.map (replaced g es)) >>= build) =
      (r.entries format (.map es) >>= build) := by
  show (r.complete (replaced g es) >>= build) = (r.complete es >>= build)
  rw [complete_replaced hg]
  cases r.complete es with
  | error m => rfl
  | ok es => exact hbuild es

theorem valueOr_replaced {α : Type} {read : Data → Except Mismatch α} {key : String}
    (hg : ∀ v, read (g key v) = read v) (es : List (String × Data)) (default : α) :
    valueOr (replaced g es) key read default = valueOr es key read default := by
  have hfind : (replaced g es).find? (·.1 = key) =
      (es.find? (·.1 = key)).map fun e => (e.1, g e.1 e.2) := by
    unfold replaced
    rw [List.find?_map]
    rfl
  unfold valueOr
  rw [hfind]
  cases hes : es.find? (·.1 = key) with
  | none => rfl
  | some e =>
    have hkey : e.1 = key := by simpa using List.find?_some hes
    rw [Option.map_some]
    dsimp only
    rw [hkey, hg]

end RecordRule

/-! ## Fields that may be stated -/

/-- Do entries state just this of a key? Its one value is among those that write it; when there is
nothing to state, the key has no value. -/
def States {α : Type} (es : List (String × Data)) (key : String) (writes : α → Data → Prop) :
    Option α → Prop
  | none => ∀ v, (key, v) ∉ es
  | some a => ∃ v, writes a v ∧ ∀ w, (key, w) ∈ es ↔ w = v

section States

variable {α β : Type} {es : List (String × Data)} {key : String} {writes : α → Data → Prop}
  {x : Option α} {read : Data → Except Mismatch β} {f : α → β}

/-- A field has what is stated of it, and its default when nothing is. -/
theorem States.value (h : States es key writes x) (hread : ∀ a v, writes a v → read v = .ok (f a))
    (default : β) : valueOr es key read default = x.elim default f := by
  cases x with
  | none =>
    have hnone : es.find? (·.1 = key) = none := by
      refine List.find?_eq_none.mpr fun e he hkey => ?_
      have hkey : e.1 = key := of_decide_eq_true hkey
      exact h e.2 (hkey ▸ he)
    rw [valueOr, hnone]
    rfl
  | some a =>
    obtain ⟨v, hv, hmem⟩ := h
    cases hfind : es.find? (·.1 = key) with
    | none =>
      have hnot := List.find?_eq_none.mp hfind (key, v) ((hmem v).mpr rfl)
      simp at hnot
    | some e =>
      have hkey : e.1 = key := by simpa using List.find?_some hfind
      have he : e.2 = v := (hmem e.2).mp (hkey ▸ List.mem_of_find?_eq_some hfind)
      rw [valueOr, hfind]
      simp only [he, hread a v hv]
      rfl

/-- What is stated of a field is accepted. -/
theorem States.accepted (h : States es key writes x)
    (hread : ∀ a v, writes a v → read v = .ok (f a)) :
    ∀ v, (key, v) ∈ es → accepts read v = .ok () := by
  intro w hw
  cases x with
  | none => exact absurd hw (h w)
  | some a =>
    obtain ⟨v, hv, hmem⟩ := h
    rw [(hmem w).mp hw, accepts, hread a v hv]
    rfl

/-- A map is taken as its entries when each field accepts what stands under its name, and each one
that is required has something there. -/
theorem RecordRule.entries_of_fields {r : RecordRule}
    (hfields : ∀ field ∈ r.fields, ∀ v, (field.name, v) ∈ es → field.check v = .ok ())
    (hrequired : ∀ field ∈ r.fields, field.required = true → ∃ v, (field.name, v) ∈ es) :
    r.entries .toml (.map es) = .ok es := by
  refine entries_of_fit (fun e he field hfind => ?_) fun field hfield hreq => ?_
  · have hname : field.name = e.1 := by simpa using List.find?_some hfind
    exact hfields field (List.mem_of_find?_eq_some hfind) e.2 (hname ▸ he)
  · obtain ⟨v, hv⟩ := hrequired field hfield hreq
    exact List.any_eq_true.mpr ⟨_, hv, decide_eq_true rfl⟩

end States

end DeviceGateway.Schema
