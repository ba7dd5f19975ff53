import DeviceGateway.Toml.Reader

/-
  No table that was read has a key twice. While a document is read, the table under construction and
  the finished part around it stay so (`Document.Tidy`): a key is only ever added where it is new,
  and otherwise the node that it has is replaced. So every key of a document stands for one value
  (`parse_distinct`).
-/

namespace DeviceGateway.Toml

/-- Has no table within the value a key twice? -/
inductive Value.Distinct : Value → Prop
  | string (s : String) : Distinct (.string s)
  | integer (n : Int) : Distinct (.integer n)
  | float (x : Binary64) : Distinct (.float x)
  | boolean (b : Bool) : Distinct (.boolean b)
  | moment (text : String) : Distinct (.moment text)
  | array {items : List Value} (h : ∀ v ∈ items, Distinct v) : Distinct (.array items)
  | table {entries : Entries} (hkeys : (entries.map (·.1)).Nodup)
      (h : ∀ e ∈ entries, Distinct e.2) : Distinct (.table entries)

/-- Has no table within the node a key twice? -/
inductive Node.Distinct : Node → Prop
  | value {v : Value} (h : v.Distinct) : Distinct (.value v)
  | table {isImplicit isDotted : Bool} {entries : Nodes} (hkeys : (entries.map (·.1)).Nodup)
      (h : ∀ e ∈ entries, Distinct e.2) : Distinct (.table isImplicit isDotted entries)
  | rows {tables : List Nodes} (hkeys : ∀ t ∈ tables, (t.map (·.1)).Nodup)
      (h : ∀ t ∈ tables, ∀ e ∈ t, Distinct e.2) : Distinct (.rows tables)

/-- Has neither the table itself a key twice, nor any table within it? -/
structure Tidy (nodes : Nodes) : Prop where
  keys : (nodes.map (·.1)).Nodup
  nodes : ∀ e ∈ nodes, e.2.Distinct

variable {nodes nodes' : Nodes} {node : Node} {key : String}

theorem tidy_nil : Tidy [] := ⟨List.nodup_nil, List.forall_mem_nil _⟩

theorem distinct_table {isImplicit isDotted : Bool} :
    (Node.table isImplicit isDotted nodes).Distinct ↔ Tidy nodes := by
  constructor
  · rintro ⟨⟩
    exact ⟨‹_›, ‹_›⟩
  · exact fun h => .table h.keys h.nodes

theorem distinct_rows {tables : List Nodes} :
    (Node.rows tables).Distinct ↔ ∀ t ∈ tables, Tidy t := by
  constructor
  · rintro ⟨⟩ t ht
    next hkeys hnodes => exact ⟨hkeys t ht, hnodes t ht⟩
  · exact fun h => .rows (fun t ht => (h t ht).keys) (fun t ht => (h t ht).nodes)

/-! ## Finished nodes -/

theorem keys_finishNodes (nodes : Nodes) : (finishNodes nodes).map (·.1) = nodes.map (·.1) := by
  induction nodes with
  | nil => rfl
  | cons e nodes ih =>
    rw [finishNodes, List.map_cons, List.map_cons, ih]

theorem mem_finishNodes {e : String × Value} (h : e ∈ finishNodes nodes) :
    ∃ e' ∈ nodes, e.2 = e'.2.finish := by
  induction nodes with
  | nil => cases h
  | cons e' nodes ih =>
    rw [finishNodes] at h
    rcases List.mem_cons.mp h with rfl | h
    · exact ⟨e', List.mem_cons_self, rfl⟩
    · obtain ⟨e'', he'', heq⟩ := ih h
      exact ⟨e'', List.mem_cons_of_mem e' he'', heq⟩

theorem mem_finishRows {tables : List Nodes} {done : List Value} {v : Value}
    (h : v ∈ finishRows tables done) : v ∈ done ∨ ∃ t ∈ tables, v = .table (finishNodes t) := by
  induction tables generalizing done with
  | nil => exact Or.inl h
  | cons t tables ih =>
    rw [finishRows] at h
    rcases ih h with h | ⟨t', ht', heq⟩
    · rcases List.mem_cons.mp h with heq | h
      · exact Or.inr ⟨t, List.mem_cons_self, heq⟩
      · exact Or.inl h
    · exact Or.inr ⟨t', List.mem_cons_of_mem t ht', heq⟩

/-- A finished node has no key twice, nor has a finished table. -/
theorem Node.Distinct.finish (h : node.Distinct) : node.finish.Distinct := by
  induction h with
  | value h => exact h
  | table hkeys _ ih =>
    refine .table (by rw [keys_finishNodes]; exact hkeys) fun e he => ?_
    obtain ⟨e', he', heq⟩ := mem_finishNodes he
    rw [heq]
    exact ih e' he'
  | rows hkeys _ ih =>
    refine .array fun v hv => ?_
    rcases mem_finishRows hv with hv | ⟨t, ht, rfl⟩
    · cases hv
    · refine .table (by rw [keys_finishNodes]; exact hkeys t ht) fun e he => ?_
      obtain ⟨e', he', heq⟩ := mem_finishNodes he
      rw [heq]
      exact ih t ht e' he'

theorem Tidy.finish (h : Tidy nodes) : (Value.table (finishNodes nodes)).Distinct :=
  (distinct_table.mpr h : (Node.table false false nodes).Distinct).finish

/-! ## Changes to a table -/

theorem distinct_of_lookup (h : Tidy nodes) (hlookup : nodes.lookup key = some node) :
    node.Distinct := by
  obtain ⟨before, after, rfl, -⟩ := List.lookup_eq_some_iff.mp hlookup
  exact h.nodes (key, node) (List.mem_append_right before List.mem_cons_self)

/-- A key that is new may be added. -/
theorem Tidy.append (h : Tidy nodes) (hnew : nodes.lookup key = none) (hnode : node.Distinct) :
    Tidy (nodes ++ [(key, node)]) := by
  have hkey : key ∉ nodes.map (·.1) := by
    intro hmem
    obtain ⟨e, he, heq⟩ := List.mem_map.mp hmem
    have hne := List.lookup_eq_none_iff.mp hnew e he
    rw [heq] at hne
    simp at hne
  refine ⟨?_, fun e he => ?_⟩
  · rw [List.map_append]
    exact List.nodup_append.mpr ⟨h.keys, List.pairwise_singleton _ _, by
      rintro a ha b hb rfl
      rw [List.mem_singleton.mp hb] at ha
      exact hkey ha⟩
  · rcases List.mem_append.mp he with he | he
    · exact h.nodes e he
    · rw [List.mem_singleton.mp he]
      exact hnode

theorem mem_put {e : String × Node} (h : e ∈ put key node nodes) : e = (key, node) ∨ e ∈ nodes := by
  induction nodes with
  | nil => exact Or.inl (List.mem_singleton.mp h)
  | cons e' nodes ih =>
    rw [put] at h
    split at h
    · next heq =>
      rcases List.mem_cons.mp h with h | h
      · exact Or.inl (h.trans (by rw [heq]))
      · exact Or.inr (List.mem_cons_of_mem e' h)
    · rcases List.mem_cons.mp h with rfl | h
      · exact Or.inr List.mem_cons_self
      · exact (ih h).imp_right (List.mem_cons_of_mem e')

/-- Where a key has a node, the node is replaced and the keys stay. -/
theorem keys_put (hkey : key ∈ nodes.map (·.1)) (node : Node) :
    (put key node nodes).map (·.1) = nodes.map (·.1) := by
  induction nodes with
  | nil => cases hkey
  | cons e nodes ih =>
    rw [put]
    split
    · rfl
    · next hne =>
      rw [List.map_cons, List.map_cons]
      rcases List.mem_cons.mp hkey with heq | hkey
      · exact absurd heq.symm hne
      · rw [ih hkey]

/-- A node that a key has may be replaced. -/
theorem Tidy.put (h : Tidy nodes) {old : Node} (hold : nodes.lookup key = some old)
    (hnode : node.Distinct) : Tidy (put key node nodes) := by
  obtain ⟨before, after, hsplit, -⟩ := List.lookup_eq_some_iff.mp hold
  have hkey : key ∈ nodes.map (·.1) := by
    rw [hsplit]
    exact List.mem_map_of_mem (List.mem_append_right before List.mem_cons_self)
  refine ⟨by rw [keys_put hkey]; exact h.keys, fun e he => ?_⟩
  rcases mem_put he with rfl | he
  · exact hnode
  · exact h.nodes e he

/-- Changing a table further down keeps keys apart, when the change itself does. -/
theorem Tidy.descend (h : Tidy nodes) {dotted isDotted : Bool} {path : List String}
    {f : Bool → Nodes → Option Nodes}
    (hf : ∀ isDotted nodes nodes', Tidy nodes → f isDotted nodes = some nodes' → Tidy nodes')
    (hdescend : descend dotted f isDotted path nodes = some nodes') : Tidy nodes' := by
  induction path generalizing nodes nodes' isDotted with
  | nil => exact hf isDotted nodes nodes' h hdescend
  | cons key path ih =>
    rw [Toml.descend] at hdescend
    split at hdescend
    · next hnew =>
      obtain ⟨sub, hsub, rfl⟩ := Option.map_eq_some_iff.mp hdescend
      exact h.append hnew (distinct_table.mpr (ih tidy_nil hsub))
    · cases hdescend
    · cases hdescend
    · next last earlier hlookup =>
      obtain ⟨row, hrow, rfl⟩ := Option.map_eq_some_iff.mp hdescend
      have hrows := distinct_rows.mp (distinct_of_lookup h hlookup)
      obtain ⟨hlast, hearlier⟩ := List.forall_mem_cons.mp hrows
      exact h.put hlookup (distinct_rows.mpr
        (List.forall_mem_cons.mpr ⟨ih hlast hrow, hearlier⟩))
    · next isImplicit d sub hlookup =>
      split at hdescend
      · cases hdescend
      · obtain ⟨sub', hsub', rfl⟩ := Option.map_eq_some_iff.mp hdescend
        have hsub := distinct_table.mp (distinct_of_lookup h hlookup)
        exact h.put hlookup (distinct_table.mpr (ih hsub hsub'))

theorem Tidy.addEntry (h : Tidy nodes) {path : List String} (hnode : node.Distinct)
    (hadd : addEntry path node nodes = some nodes') : Tidy nodes' := by
  unfold Toml.addEntry at hadd
  split at hadd
  · cases hadd
  · next last _ =>
    refine h.descend (fun isDotted sub sub' hsub hadded => ?_) hadd
    split at hadded
    · cases hadded
    · next hfree =>
      cases hadded
      refine hsub.append ?_ hnode
      simp only [Bool.or_eq_true, not_or] at hfree
      exact Option.not_isSome_iff_eq_none.mp hfree.2

/-! ## Values -/

variable {v : Value} {cs r : List Char}

/-- Does the reader give only values without a key twice? -/
def GivesDistinct (item : List Char → Reads Value) : Prop :=
  ∀ cs v r, item cs = some (v, r) → v.Distinct

theorem items_distinct {item : List Char → Reads Value} (hitem : GivesDistinct item) {fuel : Nat}
    {done : List Value} (hdone : ∀ v ∈ done, v.Distinct)
    (h : items? item fuel done cs = some (v, r)) : v.Distinct := by
  have harray : ∀ vs : List Value, (∀ v ∈ vs, v.Distinct) → (Value.array vs.reverse).Distinct :=
    fun vs hvs => .array fun v hv => hvs v (List.mem_reverse.mp hv)
  induction fuel generalizing done cs with
  | zero => cases h
  | succ fuel ih =>
    rw [items?] at h
    split at h
    · cases h
    · cases h
      exact harray done hdone
    · split at h
      · cases h
      · next w s hread =>
        have hmore : ∀ v ∈ w :: done, v.Distinct :=
          List.forall_mem_cons.mpr ⟨hitem _ w s hread, hdone⟩
        split at h
        · exact ih hmore h
        · cases h
          exact harray (w :: done) hmore
        · cases h

theorem pairs_distinct {item : List Char → Reads Value} (hitem : GivesDistinct item)
    {lineFuel fuel : Nat} {done : Nodes} (hdone : Tidy done)
    (h : pairs? item lineFuel fuel done cs = some (v, r)) : v.Distinct := by
  induction fuel generalizing done cs with
  | zero => cases h
  | succ fuel ih =>
    rw [pairs?] at h
    split at h
    · split at h
      · cases h
      · next w s hread =>
        have hvalue : (Node.value w).Distinct := .value (hitem _ w s hread)
        split at h
        · next hadd _ => exact ih (hdone.addEntry hvalue hadd) h
        · next hadd _ =>
          cases h
          exact (hdone.addEntry hvalue hadd).finish
        · cases h
    · cases h

theorem number_distinct (h : number? cs = some (v, r)) : v.Distinct := by
  unfold number? at h
  split at h
  · cases h
    exact .moment _
  · cases h
  · split at h
    · cases h
      exact .float _
    · cases h
    · obtain ⟨⟨n, s⟩, _, heq⟩ := Option.map_eq_some_iff.mp h
      cases heq
      exact .integer n

theorem plain_distinct {fuel : Nat} (h : plain? fuel cs = some (v, r)) : v.Distinct := by
  have hstring : ∀ cs, (string? fuel cs).map (fun p => (Value.string p.1, p.2)) = some (v, r) →
      v.Distinct := by
    intro cs h
    obtain ⟨⟨s, t⟩, _, heq⟩ := Option.map_eq_some_iff.mp h
    cases heq
    exact .string s
  unfold plain? at h
  split at h
  · cases h
    exact .boolean true
  · cases h
    exact .boolean false
  · exact hstring _ h
  · exact hstring _ h
  · exact number_distinct h

/-- No value that is read has a key twice. -/
theorem value_distinct (fuel depth : Nat) : GivesDistinct (value? fuel depth) := by
  induction depth with
  | zero =>
    intro cs v r h
    rw [value?] at h
    split at h
    · cases h
    · exact plain_distinct h
  | succ depth ih =>
    intro cs v r h
    unfold value? at h
    split at h
    · exact items_distinct ih (List.forall_mem_nil _) h
    · split at h
      · cases h
        exact .table List.nodup_nil (List.forall_mem_nil _)
      · exact pairs_distinct ih tidy_nil h
    · exact plain_distinct h

/-! ## Documents -/

/-- Has no table of a document under construction a key twice? -/
structure Document.Tidy (d : Document) : Prop where
  root : Toml.Tidy d.root
  current : Toml.Tidy d.current

variable {d d' : Document}

theorem Document.Tidy.close (h : d.Tidy) (hclose : d.close = some nodes) : Toml.Tidy nodes := by
  unfold Document.close at hclose
  split at hclose
  · cases hclose
    exact h.current
  · next last _ =>
    refine h.root.descend (fun isDotted sub sub' hsub hput => ?_) hclose
    split at hput
    · split at hput
      · next hnew =>
        cases hput
        exact hsub.append hnew (distinct_rows.mpr (List.forall_mem_singleton.mpr h.current))
      · next rows hlookup =>
        cases hput
        have hrows := distinct_rows.mp (distinct_of_lookup hsub hlookup)
        exact hsub.put hlookup (distinct_rows.mpr (List.forall_mem_cons.mpr ⟨h.current, hrows⟩))
      · cases hput
    · split at hput
      · cases hput
      · next hfree =>
        cases hput
        exact hsub.append (Option.not_isSome_iff_eq_none.mp hfree) (distinct_table.mpr h.current)

theorem distinct_of_nodeAt {path : List String} (h : Tidy nodes)
    (hat : nodeAt? path nodes = some node) : node.Distinct := by
  induction path generalizing nodes with
  | nil => cases hat
  | cons key path ih =>
    unfold nodeAt? at hat
    split at hat
    · cases hat
    · exact distinct_of_lookup h hat
    · next heq =>
      cases heq
      split at hat
      · next hlookup => exact ih (distinct_table.mp (distinct_of_lookup h hlookup)) hat
      · next last _ hlookup =>
        have hrows := distinct_rows.mp (distinct_of_lookup h hlookup)
        exact ih (List.forall_mem_cons.mp hrows).1 hat
      · cases hat

/-- A key and its node may be taken out. -/
theorem Tidy.filter (h : Tidy nodes) (p : String × Node → Bool) : Tidy (nodes.filter p) :=
  ⟨h.keys.sublist (List.filter_sublist.map _), fun e he => h.nodes e (List.mem_filter.mp he).1⟩

theorem Document.Tidy.header (h : d.Tidy) {path : List String}
    (hheader : d.header path = some d') : d'.Tidy := by
  unfold Document.header at hheader
  obtain ⟨root, hclose, hheader⟩ := Option.bind_eq_some_iff.mp hheader
  have hroot := h.close hclose
  split at hheader
  · obtain ⟨_, _, hheader⟩ := Option.bind_eq_some_iff.mp hheader
    cases hheader
    exact ⟨hroot, tidy_nil⟩
  · next sub hat =>
    obtain ⟨last, _, hheader⟩ := Option.bind_eq_some_iff.mp hheader
    obtain ⟨root', hroot', hheader⟩ := Option.bind_eq_some_iff.mp hheader
    cases hheader
    refine ⟨hroot.descend (fun isDotted nodes nodes' hnodes hfilter => ?_) hroot',
      distinct_table.mp (distinct_of_nodeAt hroot hat)⟩
    cases hfilter
    exact hnodes.filter _
  · cases hheader

theorem Document.Tidy.row (h : d.Tidy) {path : List String} (hrow : d.row path = some d') :
    d'.Tidy := by
  unfold Document.row at hrow
  obtain ⟨root, hclose, hrow⟩ := Option.bind_eq_some_iff.mp hrow
  have hroot := h.close hclose
  split at hrow
  · obtain ⟨_, _, hrow⟩ := Option.bind_eq_some_iff.mp hrow
    cases hrow
    exact ⟨hroot, tidy_nil⟩
  · cases hrow
    exact ⟨hroot, tidy_nil⟩
  · cases hrow

/-- A line keeps keys apart. -/
theorem Document.Tidy.line (h : d.Tidy) {fuel : Nat} (hline : d.line? fuel cs = some (d', r)) :
    d'.Tidy := by
  unfold Document.line? at hline
  split at hline
  · obtain ⟨⟨path, s⟩, _, hline⟩ := Option.bind_eq_some_iff.mp hline
    split at hline
    · obtain ⟨d'', hrow, hline⟩ := Option.bind_eq_some_iff.mp hline
      obtain ⟨_, _, hline⟩ := Option.bind_eq_some_iff.mp hline
      cases hline
      exact h.row hrow
    · cases hline
  · obtain ⟨⟨path, s⟩, _, hline⟩ := Option.bind_eq_some_iff.mp hline
    split at hline
    · obtain ⟨d'', hheader, hline⟩ := Option.bind_eq_some_iff.mp hline
      obtain ⟨_, _, hline⟩ := Option.bind_eq_some_iff.mp hline
      cases hline
      exact h.header hheader
    · cases hline
  · obtain ⟨⟨path, s⟩, _, hline⟩ := Option.bind_eq_some_iff.mp hline
    split at hline
    · obtain ⟨⟨w, t⟩, hread, hline⟩ := Option.bind_eq_some_iff.mp hline
      obtain ⟨_, _, hline⟩ := Option.bind_eq_some_iff.mp hline
      obtain ⟨current, hadd, hline⟩ := Option.bind_eq_some_iff.mp hline
      cases hline
      exact ⟨h.root, h.current.addEntry (.value (value_distinct _ _ _ w t hread)) hadd⟩
    · cases hline

theorem Document.Tidy.lines (h : d.Tidy) {lineFuel fuel : Nat}
    (hlines : lines? lineFuel fuel d cs = some d') : d'.Tidy := by
  induction fuel generalizing d cs with
  | zero => cases hlines
  | succ fuel ih =>
    unfold lines? at hlines
    split at hlines
    · cases hlines
      exact h
    · obtain ⟨_, _, hlines⟩ := Option.bind_eq_some_iff.mp hlines
      exact ih h hlines
    · split at hlines
      · exact ih h hlines
      · split at hlines
        · next hline => exact ih (h.line hline) hlines
        · cases hlines

/-- No table of a document has a key twice. -/
theorem parse_distinct {text : String} {entries : Entries} (h : parse? text = some entries) :
    (Value.table entries).Distinct := by
  obtain ⟨d, hlines, hclose⟩ := Option.bind_eq_some_iff.mp h
  obtain ⟨nodes, hnodes, rfl⟩ := Option.map_eq_some_iff.mp hclose
  have hstart : Document.Tidy {} := ⟨tidy_nil, tidy_nil⟩
  exact ((hstart.lines hlines).close hnodes).finish

end DeviceGateway.Toml
