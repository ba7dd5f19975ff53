import DeviceGateway.Proofs.Toml.Numbers
import DeviceGateway.Proofs.Toml.Strings

/-
  Reading back written lines. A text leads the reader of a document from what it had to what it has
  then (`Leads`), and texts that follow each other lead on (`Leads.append`). Lines that give keys
  their values add them to the current table (`leads_entries`); a table with a header and the rows
  of a table array are put behind what is there (`leads_table`, `leads_rows`). A whole text is read
  as the document that it leads to from nothing (`parse_of_leads`).
-/

namespace DeviceGateway.Toml

variable {c : Char} {cs rest : List Char} {fuel n : Nat}

/-! ## Values -/

theorem plain_digit (hc : c.isDigit = true) (r : List Char) :
    plain? fuel (c :: r) = number? (c :: r) := by
  unfold plain?
  split
  · next heq => rw [(List.cons.inj heq).1] at hc; cases hc
  · next heq => rw [(List.cons.inj heq).1] at hc; cases hc
  · next heq => rw [(List.cons.inj heq).1] at hc; cases hc
  · next heq => rw [(List.cons.inj heq).1] at hc; cases hc
  · rfl

theorem value_plain (hlist : c ≠ '[') (htable : c ≠ '\x7b') (r : List Char) :
    value? fuel maxNesting (c :: r) = plain? fuel (c :: r) := by
  show value? fuel (78 + 1) (c :: r) = _
  unfold value?
  split
  · next heq => exact absurd (List.cons.inj heq).1 hlist
  · next heq => exact absurd (List.cons.inj heq).1 htable
  · rfl

theorem value_quote {q : Char} (hq : q = '"' ∨ q = '\'') (r : List Char) :
    value? fuel maxNesting (q :: r) = (string? fuel (q :: r)).map fun (s, r) => (.string s, r) := by
  rcases hq with rfl | rfl
  · exact value_plain (by decide) (by decide) r
  · exact value_plain (by decide) (by decide) r

theorem value_string (s : String) (hfuel : s.toList.length < fuel) :
    value? fuel maxNesting ((quoted s).toList ++ '\n' :: rest) =
      some (.string s, '\n' :: rest) := by
  have hread := string_quoted s hfuel rest
  obtain ⟨q, t, hq, htext⟩ : ∃ q t, (q = '"' ∨ q = '\'') ∧ (quoted s).toList = q :: t := by
    obtain ⟨t, htext | htext⟩ := quoted_head s
    · exact ⟨_, t, .inl rfl, htext⟩
    · exact ⟨_, t, .inr rfl, htext⟩
  rw [htext, List.cons_append] at hread ⊢
  rw [value_quote hq, hread]
  rfl

theorem value_number (hn : n < 2 ^ 63) :
    value? fuel maxNesting ((toString n).toList ++ '\n' :: rest) =
      some (.integer n, '\n' :: rest) := by
  have hread := number_toString hn rest
  have htext : (toString n).toList = Nat.toDigits 10 n := Nat.toList_repr
  obtain ⟨c, r, hdigits, hc⟩ := written_head (written_toDigits n)
  have hne : ∀ d : Char, d.isDigit = false → c ≠ d := by
    rintro d hd rfl
    rw [hc] at hd
    cases hd
  rw [htext, hdigits] at hread ⊢
  rw [List.cons_append, value_plain (hne _ (by decide)) (hne _ (by decide)), plain_digit hc,
    ← List.cons_append, hread]

/-! ## Keys -/

theorem of_isBareKeyChar (hc : isBareKeyChar c = true) :
    isBlank c = false ∧ ∀ d ∈ ['"', '\'', '#', '[', '\n', '\r'], c ≠ d := by
  refine ⟨?_, ?_⟩
  · cases hblank : isBlank c with
    | false => rfl
    | true =>
      unfold isBlank at hblank
      rcases Bool.or_eq_true_iff.mp hblank with h | h
      · rw [of_decide_eq_true h] at hc
        exact absurd hc (by decide)
      · rw [of_decide_eq_true h] at hc
        exact absurd hc (by decide)
  · rintro d hd rfl
    have hall : ['"', '\'', '#', '[', '\n', '\r'].all (!isBareKeyChar ·) = true := by decide
    have hnot := List.all_eq_true.mp hall c hd
    rw [hc] at hnot
    cases hnot

/-- Is a key written without quotes? -/
def IsBare (key : String) : Prop := key ≠ "" ∧ key.toList.all isBareKeyChar = true

instance (key : String) : Decidable (IsBare key) := inferInstanceAs (Decidable (_ ∧ _))

variable {key : String}

theorem IsBare.head (h : IsBare key) :
    ∃ c r, key.toList = c :: r ∧ isBareKeyChar c = true ∧ ∀ c ∈ r, isBareKeyChar c = true := by
  obtain ⟨hne, hchars⟩ := h
  cases hcs : key.toList with
  | nil => exact absurd (String.toList_eq_nil_iff.mp hcs) hne
  | cons c r =>
    rw [hcs] at hchars
    exact ⟨c, r, rfl, List.forall_mem_cons.mp (List.all_eq_true.mp hchars)⟩

/-- A key is read up to what follows the blanks behind it. -/
theorem key_bare (h : IsBare key) {x y : Char} {t r : List Char} (hx : isBareKeyChar x = false)
    (hskip : skipBlanks (x :: t) = y :: r) (hy : y ≠ '.') :
    key? fuel (key.toList ++ x :: t) = some ([key], y :: r) := by
  obtain ⟨c, cs, hkey, hc, hcs⟩ := h.head
  obtain ⟨hblank, hne⟩ := of_isBareKeyChar hc
  have hall : ∀ d ∈ c :: cs, isBareKeyChar d = true := List.forall_mem_cons.mpr ⟨hc, hcs⟩
  have hstart : skipBlanks ((c :: cs) ++ x :: t) = (c :: cs) ++ x :: t :=
    List.dropWhile_cons_of_neg (by simp [hblank])
  have htake : ((c :: cs) ++ x :: t).takeWhile isBareKeyChar = c :: cs := by
    rw [List.takeWhile_append_of_pos hall, List.takeWhile_cons_of_neg (by simp [hx]),
      List.append_nil]
  have hdrop : ((c :: cs) ++ x :: t).dropWhile isBareKeyChar = x :: t := by
    rw [List.dropWhile_append_of_pos hall, List.dropWhile_cons_of_neg (by simp [hx])]
  have hpart : keyPart? fuel ((c :: cs) ++ x :: t) = some (key, x :: t) := by
    unfold keyPart?
    split
    · next heq => exact absurd (List.cons.inj heq).1 (hne '"' (by decide))
    · next heq => exact absurd (List.cons.inj heq).1 (hne '\'' (by decide))
    · simp only [htake, hdrop]
      rw [if_neg (by simp), ← hkey, String.ofList_toList]
  show keyFrom? fuel (78 + 1) [] _ = _
  rw [hkey]
  unfold keyFrom?
  rw [hstart, hpart]
  simp only [hskip]
  split
  · next heq => exact absurd (List.cons.inj heq).1 hy
  · rfl

/-! ## Spelled values -/

/-- A text spells a value: at the end of a line it is read as that value. -/
structure Spells (text : String) (v : Value) : Prop where
  head : ∃ c r, text.toList = c :: r ∧ isBlank c = false
  read : ∀ fuel rest, text.toList.length < fuel →
    value? fuel maxNesting (text.toList ++ '\n' :: rest) = some (v, '\n' :: rest)

theorem spells_string (s : String) : Spells (quoted s) (.string s) where
  head := by
    obtain ⟨t, h | h⟩ := quoted_head s
    · exact ⟨_, _, h, by decide⟩
    · exact ⟨_, _, h, by decide⟩
  read _ _ hfuel := value_string s (Nat.lt_of_le_of_lt (length_quoted s) hfuel)

theorem spells_number (hn : n < 2 ^ 63) : Spells (toString n) (.integer n) where
  head := by
    obtain ⟨c, r, hdigits, hc⟩ := written_head (written_toDigits n)
    refine ⟨c, r, Nat.toList_repr.trans hdigits, ?_⟩
    cases hblank : isBlank c with
    | false => rfl
    | true =>
      rcases Bool.or_eq_true_iff.mp hblank with h | h
      all_goals
        rw [of_decide_eq_true h] at hc
        cases hc
  read _ _ _ := value_number hn

theorem spells_boolean (b : Bool) : Spells (if b then "true" else "false") (.boolean b) where
  head := by
    cases b with
    | true => exact ⟨_, _, rfl, by decide⟩
    | false => exact ⟨_, _, rfl, by decide⟩
  read _ _ _ := by
    cases b with
    | true => exact value_plain (by decide) (by decide) _
    | false => exact value_plain (by decide) (by decide) _

theorem spells_empty : Spells "[]" (.array []) where
  head := ⟨_, _, rfl, by decide⟩
  read fuel _ hfuel := by
    cases fuel with
    | zero => exact absurd hfuel (Nat.not_lt_zero _)
    | succ n => rfl

/-! ## Texts that lead on -/

/-- A text leads a document on to another: whatever follows the text is read as if it stood behind
the second document alone. -/
def Leads (d : Document) (text : String) (d' : Document) : Prop :=
  ∃ steps ≤ text.toList.length, ∀ lineFuel, text.toList.length < lineFuel → ∀ n rest,
    lines? lineFuel (n + steps) d (text.toList ++ rest) = lines? lineFuel n d' rest

variable {d d' d'' : Document} {text text' : String} {v : Value} {root : Nodes}

theorem Leads.nil (d : Document) : Leads d "" d :=
  ⟨0, Nat.le_refl _, fun _ _ _ _ => rfl⟩

theorem Leads.append (h : Leads d text d') (h' : Leads d' text' d'') :
    Leads d (text ++ text') d'' := by
  obtain ⟨k, hk, hread⟩ := h
  obtain ⟨k', hk', hread'⟩ := h'
  have hlength : (text ++ text').toList.length = text.toList.length + text'.toList.length := by
    rw [String.toList_append, List.length_append]
  refine ⟨k' + k, by omega, fun lineFuel hfuel n rest => ?_⟩
  rw [String.toList_append, List.append_assoc, ← Nat.add_assoc, hread lineFuel (by omega),
    hread' lineFuel (by omega)]

/-- One line that is not blank leads on as the line says. -/
theorem leads_line (hhead : ∃ c r, text.toList = c :: r ∧ isBlank c = false ∧
      c ∉ ['#', '\n', '\r'])
    (hline : ∀ lineFuel, text.toList.length < lineFuel → ∀ rest,
      d.line? lineFuel (text.toList ++ rest) = some (d', rest)) : Leads d text d' := by
  obtain ⟨c, r, htext, hblank, hc⟩ := hhead
  refine ⟨1, by rw [htext]; exact Nat.succ_pos _, fun lineFuel hfuel n rest => ?_⟩
  have hstep := hline lineFuel hfuel rest
  rw [htext, List.cons_append] at hstep ⊢
  have hskip : skipBlanks (c :: (r ++ rest)) = c :: (r ++ rest) :=
    List.dropWhile_cons_of_neg (by simp [hblank])
  have hnewline : newline? (c :: (r ++ rest)) = none := by
    unfold newline?
    split
    · next heq => exact absurd (by rw [(List.cons.inj heq).1]; decide) hc
    · next heq => exact absurd (by rw [(List.cons.inj heq).1]; decide) hc
    · rfl
  show lines? lineFuel (n + 1) d _ = _
  rw [lines?, hskip]
  split
  · next heq => cases heq
  · next heq => exact absurd (by rw [(List.cons.inj heq).1]; decide) hc
  · rw [hnewline]
    simp only [hstep]

theorem leads_blank (d : Document) : Leads d "\n" d :=
  ⟨1, Nat.le_refl _, fun _ _ _ _ => rfl⟩

/-! ## Entries -/

theorem addEntry_new {nodes : Nodes} (hnew : nodes.lookup key = none) (v : Value) :
    addEntry [key] (.value v) nodes = some (nodes ++ [(key, .value v)]) := by
  simp [addEntry, descend, hnew]

/-- A line that gives a new key a value adds both to the current table. -/
theorem leads_entry (hkey : IsBare key) (hv : Spells text v) (hnew : d.current.lookup key = none) :
    Leads d (key ++ " = " ++ text ++ "\n")
      { d with current := d.current ++ [(key, .value v)] } := by
  obtain ⟨c, cs, hcs, hc, -⟩ := hkey.head
  obtain ⟨hblank, hne⟩ := of_isBareKeyChar hc
  have htext : ∀ rest, (key ++ " = " ++ text ++ "\n").toList ++ rest =
      key.toList ++ ' ' :: '=' :: ' ' :: (text.toList ++ '\n' :: rest) := by
    intro rest
    simp
  have hlength : text.toList.length < (key ++ " = " ++ text ++ "\n").toList.length := by
    simp
    omega
  refine leads_line ?_ fun lineFuel hfuel rest => ?_
  · refine ⟨c, cs ++ (" = " ++ text ++ "\n").toList, by simp [hcs], hblank, ?_⟩
    simp [hne]
  · rw [htext]
    have hread : key? lineFuel (key.toList ++ ' ' :: '=' :: ' ' :: (text.toList ++ '\n' :: rest)) =
        some ([key], '=' :: ' ' :: (text.toList ++ '\n' :: rest)) :=
      key_bare hkey (by decide) rfl (by decide)
    have hskip : skipBlanks (' ' :: (text.toList ++ '\n' :: rest)) =
        text.toList ++ '\n' :: rest := by
      obtain ⟨x, r, hx, hxblank⟩ := hv.head
      rw [hx, skipBlanks, List.dropWhile_cons_of_pos (by decide), List.cons_append,
        List.dropWhile_cons_of_neg (by simp [hxblank])]
    rw [Document.line?, hread]
    · simp only [Option.bind_eq_bind, Option.bind_some, hskip,
        hv.read lineFuel rest (Nat.lt_trans hlength hfuel), addEntry_new hnew]
      rfl
    all_goals
      intro r heq
      rw [hcs] at heq
      exact hne '[' (by decide) (List.cons.inj heq).1

/-- An entry to be written: its key, the text of its value, and the value. -/
structure Entry where
  key : String
  text : String
  value : Value

/-- The line that writes an entry. -/
def Entry.line (e : Entry) : String := e.key ++ " = " ++ e.text ++ "\n"

/-- What an entry puts into a table. -/
def Entry.node (e : Entry) : String × Node := (e.key, .value e.value)

/-- Entries that can be lines of one table: their texts spell their values, and no key comes
twice. -/
structure Fit (es : List Entry) : Prop where
  bare : ∀ k ∈ es.map Entry.key, IsBare k
  spelled : ∀ e ∈ es, Spells e.text e.value
  nodup : (es.map Entry.key).Nodup

/-- Entries and their lines, behind others with other keys. -/
theorem leads_entries {es : List Entry} (h : Fit es)
    (hnew : ∀ e ∈ es, d.current.lookup e.key = none) :
    Leads d (String.join (es.map Entry.line))
      { d with current := d.current ++ es.map Entry.node } := by
  induction es generalizing d with
  | nil =>
    show Leads d "" { d with current := d.current ++ [] }
    rw [List.append_nil]
    exact Leads.nil d
  | cons e es ih =>
    obtain ⟨hbare, hspelled, hnodup⟩ := h
    obtain ⟨hfresh, hnodup⟩ := List.nodup_cons.mp hnodup
    have hlead := leads_entry (hbare e.key List.mem_cons_self) (hspelled e List.mem_cons_self)
      (hnew e List.mem_cons_self)
    have hrest := @ih { d with current := d.current ++ [e.node] }
      ⟨fun k hk => hbare k (List.mem_cons_of_mem _ hk),
        fun x hx => hspelled x (List.mem_cons_of_mem _ hx), hnodup⟩ (by
      intro x hx
      have hne : (x.key == e.key) = false :=
        beq_eq_false_iff_ne.mpr fun heq => hfresh (heq ▸ List.mem_map_of_mem hx)
      rw [List.lookup_append, hnew x (List.mem_cons_of_mem _ hx)]
      simp [Entry.node, List.lookup_cons, hne])
    have hjoin := hlead.append hrest
    rw [List.append_assoc] at hjoin
    rw [List.map_cons, String.join_cons]
    exact hjoin

/-! ## Tables and rows -/

theorem leads_header (hkey : IsBare key) (hheader : d.header [key] = some d') :
    Leads d ("[" ++ key ++ "]\n") d' := by
  obtain ⟨c, cs, hcs, hc, -⟩ := hkey.head
  have htext : ∀ rest, ("[" ++ key ++ "]\n").toList ++ rest =
      '[' :: (key.toList ++ ']' :: '\n' :: rest) := by
    intro rest
    simp
  refine leads_line ⟨'[', key.toList ++ [']', '\n'], by simp, by decide, by decide⟩
    fun lineFuel _ rest => ?_
  have hread : key? lineFuel (key.toList ++ ']' :: '\n' :: rest) =
      some ([key], ']' :: '\n' :: rest) :=
    key_bare hkey (by decide) rfl (by decide)
  rw [htext, Document.line?, hread]
  · simp only [Option.bind_eq_bind, Option.bind_some, hheader]
    rfl
  · intro r heq
    rw [hcs] at heq
    exact (of_isBareKeyChar hc).2 '[' (by decide) (List.cons.inj heq).1

theorem leads_row (hkey : IsBare key) (hrow : d.row [key] = some d') :
    Leads d ("[[" ++ key ++ "]]\n") d' := by
  have htext : ∀ rest, ("[[" ++ key ++ "]]\n").toList ++ rest =
      '[' :: '[' :: (key.toList ++ ']' :: ']' :: '\n' :: rest) := by
    intro rest
    simp
  refine leads_line ⟨'[', '[' :: key.toList ++ [']', ']', '\n'], by simp, by decide, by decide⟩
    fun lineFuel _ rest => ?_
  have hread : key? lineFuel (key.toList ++ ']' :: ']' :: '\n' :: rest) =
      some ([key], ']' :: ']' :: '\n' :: rest) :=
    key_bare hkey (by decide) rfl (by decide)
  rw [htext, Document.line?, hread]
  simp only [Option.bind_eq_bind, Option.bind_some, hrow]
  rfl

theorem header_new (hclose : d.close = some root) (hnew : root.lookup key = none) :
    d.header [key] = some { root, path := [key], current := [] } := by
  simp [Document.header, hclose, nodeAt?, hnew, descend]

/-- A table with a new name is put behind what is there. -/
theorem leads_table {es : List Entry} (hkey : IsBare key) (hes : Fit es)
    (hclose : d.close = some root) (hnew : root.lookup key = none) :
    ∃ d', Leads d ("[" ++ key ++ "]\n" ++ String.join (es.map Entry.line)) d' ∧
      d'.close = some (root ++ [(key, .table false false (es.map Entry.node))]) := by
  have hhead := leads_header hkey (header_new hclose hnew)
  have hlines := leads_entries (d := { root, path := [key], current := [] }) hes fun _ _ => rfl
  refine ⟨_, hhead.append hlines, ?_⟩
  simp [Document.close, descend, hnew]

/-- The lines of a table, behind a blank one. -/
def tableText (key : String) (es : List Entry) : String :=
  "\n" ++ ("[" ++ key ++ "]\n" ++ String.join (es.map Entry.line))

/-- What a table puts into a document. -/
def tableNode (t : String × List Entry) : String × Node :=
  (t.1, .table false false (t.2.map Entry.node))

/-- Tables with new names are put behind what is there, in their order. -/
theorem leads_tables {tables : List (String × List Entry)} (hkeys : ∀ t ∈ tables, IsBare t.1)
    (hfit : ∀ t ∈ tables, Fit t.2) (hnodup : (tables.map (·.1)).Nodup)
    (hclose : d.close = some root) (hnew : ∀ t ∈ tables, root.lookup t.1 = none) :
    ∃ d', Leads d (String.join (tables.map fun t => tableText t.1 t.2)) d' ∧
      d'.close = some (root ++ tables.map tableNode) := by
  induction tables generalizing d root with
  | nil => exact ⟨d, Leads.nil d, by rw [hclose, List.map_nil, List.append_nil]⟩
  | cons t tables ih =>
    obtain ⟨hfresh, hnodup⟩ := List.nodup_cons.mp hnodup
    obtain ⟨d₁, hlead, hclose₁⟩ := leads_table (hkeys t List.mem_cons_self)
      (hfit t List.mem_cons_self) hclose (hnew t List.mem_cons_self)
    obtain ⟨d₂, hrest, hclose₂⟩ := ih (fun x hx => hkeys x (List.mem_cons_of_mem _ hx))
      (fun x hx => hfit x (List.mem_cons_of_mem _ hx)) hnodup hclose₁ (by
        intro x hx
        have hne : (x.1 == t.1) = false :=
          beq_eq_false_iff_ne.mpr fun heq => hfresh (List.mem_map.mpr ⟨x, hx, heq⟩)
        rw [List.lookup_append, hnew x (List.mem_cons_of_mem _ hx)]
        simp [List.lookup_cons, hne])
    refine ⟨d₂, ?_, ?_⟩
    · rw [List.map_cons, String.join_cons]
      exact ((leads_blank d).append hlead).append hrest
    · rw [hclose₂, List.append_assoc]
      rfl

/-- The key of a table array, when it has rows; the latest stands first. -/
def rowsNode (key : String) : List Nodes → Nodes
  | [] => []
  | rows => [(key, .rows rows)]

theorem rowsNode_of_ne {rows : List Nodes} (h : rows ≠ []) :
    rowsNode key rows = [(key, .rows rows)] := by
  cases rows with
  | nil => exact absurd rfl h
  | cons row rows => rfl

/-- The lines of a row of a table array, behind a blank one. -/
def rowText (key : String) (es : List Entry) : String :=
  "\n" ++ ("[[" ++ key ++ "]]\n") ++ String.join (es.map Entry.line)

theorem lookup_last {nodes : Nodes} (hnew : nodes.lookup key = none) (node : Node) :
    (nodes ++ [(key, node)]).lookup key = some node := by
  rw [List.lookup_append, hnew]
  simp

theorem put_last {nodes : Nodes} (hnew : nodes.lookup key = none) (node node' : Node) :
    put key node' (nodes ++ [(key, node)]) = nodes ++ [(key, node')] := by
  induction nodes with
  | nil => simp [put]
  | cons kn nodes ih =>
    obtain ⟨k, n⟩ := kn
    have hne : key ≠ k := by
      rintro rfl
      simp at hnew
    have hrest : nodes.lookup key = none := by
      simpa [List.lookup_cons, beq_eq_false_iff_ne.mpr hne] using hnew
    rw [List.cons_append, put, if_neg (Ne.symm hne), ih hrest, List.cons_append]

theorem row_begins {rows : List Nodes} (hnew : root.lookup key = none)
    (hclose : d.close = some (root ++ rowsNode key rows)) :
    d.row [key] = some { root := root ++ rowsNode key rows, path := [key], isRow := true } := by
  cases rows with
  | nil =>
    rw [rowsNode, List.append_nil] at hclose ⊢
    simp [Document.row, hclose, nodeAt?, hnew, descend]
  | cons row rows =>
    rw [rowsNode_of_ne (List.cons_ne_nil _ _)] at hclose ⊢
    simp [Document.row, hclose, nodeAt?, lookup_last hnew]

theorem row_closes {rows : List Nodes} (hnew : root.lookup key = none) (current : Nodes) :
    Document.close { root := root ++ rowsNode key rows, path := [key], isRow := true, current } =
      some (root ++ rowsNode key (current :: rows)) := by
  cases rows with
  | nil => simp [Document.close, descend, rowsNode, hnew]
  | cons row rows => simp [Document.close, descend, rowsNode, lookup_last hnew, put_last hnew]

/-- Rows are put behind what is there, and behind the rows before them. -/
theorem leads_rows {tables : List (List Entry)} (hkey : IsBare key) (hfit : ∀ es ∈ tables, Fit es)
    (hnew : root.lookup key = none) {rows : List Nodes}
    (hclose : d.close = some (root ++ rowsNode key rows)) :
    ∃ d', Leads d (String.join (tables.map (rowText key))) d' ∧
      d'.close = some (root ++ rowsNode key ((tables.map (·.map Entry.node)).reverse ++ rows)) := by
  induction tables generalizing d rows with
  | nil => exact ⟨d, Leads.nil d, hclose⟩
  | cons es tables ih =>
    have hhead := (leads_blank d).append (leads_row hkey (row_begins hnew hclose))
    have hlines := leads_entries
      (d := { root := root ++ rowsNode key rows, path := [key], isRow := true })
      (hfit es List.mem_cons_self) fun _ _ => rfl
    obtain ⟨d', hlead, hend⟩ := ih (fun x hx => hfit x (List.mem_cons_of_mem _ hx))
      (row_closes hnew (es.map Entry.node))
    refine ⟨d', ?_, ?_⟩
    · rw [List.map_cons, String.join_cons]
      exact (hhead.append hlines).append hlead
    · rw [hend, List.map_cons, List.reverse_cons, List.append_assoc, List.singleton_append]

/-! ## Whole texts -/

/-- A text that leads on from nothing is read as the document it leads to. -/
theorem parse_of_leads (hmark : text.toList.head? ≠ some '\uFEFF') (hlead : Leads {} text d)
    (hclose : d.close = some root) : parse? text = some (finishNodes root) := by
  obtain ⟨steps, hsteps, hread⟩ := hlead
  have hfrom := hread (text.toList.length + 1) (Nat.lt_succ_self _)
    (text.toList.length - steps + 1) []
  have hsum : text.toList.length - steps + 1 + steps = text.toList.length + 1 := by omega
  rw [List.append_nil, hsum] at hfrom
  have hend : lines? (text.toList.length + 1) (text.toList.length - steps + 1) d [] = some d := rfl
  have hparse : parse? text = (lines? (text.toList.length + 1) (text.toList.length + 1) {}
      text.toList).bind fun d => d.close.map finishNodes := by
    unfold parse?
    split
    · next heq =>
      rw [heq] at hmark
      exact absurd rfl hmark
    · rfl
  rw [hparse, hfrom, hend, Option.bind_some, hclose, Option.map_some]

end DeviceGateway.Toml
