import DeviceGateway.Proofs.Toml.Lines
import DeviceGateway.Settings.Document

/-
  The text of a document of settings is read as the tables it was written from. Each section is a
  list of entries that fit one table (`Server.fit`, `Timeouts.fit`, `Discovery.fit`, `account_fit`);
  the text leads to the sections and the rows of the accounts in their order (`document_leads`), so
  the reader gives just those (`parse_document`).
-/

namespace DeviceGateway.Settings

open Toml

/-! ## Entries of the sections -/

/-- An entry for a text. -/
def textEntry (key s : String) : Entry := ⟨key, quoted s, .string s⟩

/-- An entry for a whole number. -/
def numberEntry (key : String) (n : Nat) : Entry := ⟨key, toString n, .integer n⟩

/-- The entries of the listener's table. -/
def Server.written (s : Server) : List Entry :=
  [textEntry "bind_address" s.bindAddress, numberEntry "port" s.port.toNat,
    textEntry "cert_path" s.certPath, textEntry "key_path" s.keyPath] ++
    (match s.wwwRoot with
      | some root => [textEntry "www_root" root]
      | none => []) ++
    [textEntry "log_level" s.logLevel]

/-- The entries of the table of the deadlines. -/
def Timeouts.written (t : Timeouts) : List Entry :=
  [numberEntry "http_idle_secs" t.httpIdle.toNat,
    numberEntry "shutdown_stage_secs" t.shutdownStage.toNat,
    numberEntry "channel_write_secs" t.channelWrite.toNat,
    numberEntry "token_ttl_secs" t.tokenTtl.toNat]

/-- The entries of the discovery responder's table. -/
def Discovery.written (d : Discovery) : List Entry :=
  [⟨"enabled", if d.enabled then "true" else "false", .boolean d.enabled⟩,
    numberEntry "port" d.port.toNat, textEntry "node_name" d.nodeName,
    textEntry "external_host" d.externalHost, numberEntry "external_port" d.externalPort.toNat]

/-- The entries of an account's table. -/
def accountWritten (a : Account) : List Entry :=
  [textEntry "name" a.name, textEntry "password" a.password, textEntry "level" a.level.name]

theorem line_text (key s : String) : (textEntry key s).line = textLine key s := rfl

theorem line_number (key : String) (n : Nat) : (numberEntry key n).line = numberLine key n := rfl

theorem Server.document_written (s : Server) :
    s.document = "[server]\n" ++ String.join (s.written.map Entry.line) := by
  unfold Server.document Server.written
  cases s.wwwRoot with
  | none =>
    simp only [List.append_nil, List.cons_append, List.nil_append, List.map_cons, List.map_nil,
      line_text, line_number, String.join_cons, String.join_nil, String.append_assoc,
      String.append_empty]
  | some root =>
    simp only [List.cons_append, List.nil_append, List.map_cons, List.map_nil, line_text,
      line_number, String.join_cons, String.join_nil, String.append_assoc, String.append_empty]

theorem Timeouts.document_written (t : Timeouts) :
    t.document = "[timeouts]\n" ++ String.join (t.written.map Entry.line) := by
  unfold Timeouts.document
  simp only [Timeouts.written, List.map_cons, List.map_nil, line_number,
    String.join_cons, String.join_nil, String.append_assoc, String.append_empty]

theorem Discovery.document_written (d : Discovery) :
    d.document = "[discovery]\n" ++ String.join (d.written.map Entry.line) := by
  have henabled (text : String) : Entry.line ⟨"enabled", text, .boolean d.enabled⟩ =
      line "enabled" text := rfl
  unfold Discovery.document
  simp only [Discovery.written, List.map_cons, List.map_nil, henabled, line_text,
    line_number, String.join_cons, String.join_nil, String.append_assoc,
    String.append_empty]

theorem account_written (a : Account) :
    accountDocument a = rowText "users" (accountWritten a) := by
  have hhead : "\n" ++ ("[[" ++ "users" ++ "]]\n") = "\n[[users]]\n" := rfl
  unfold accountDocument
  rw [rowText, hhead]
  simp only [accountWritten, List.map_cons, List.map_nil, line_text,
    String.join_cons, String.join_nil, String.append_assoc, String.append_empty]

/-! ## The entries fit -/

/-- A text entry spells its text. -/
theorem textEntry_spelled (key s : String) :
    Spells (textEntry key s).text (textEntry key s).value := spells_string s

/-- A number entry spells its number, when the format has it. -/
theorem numberEntry_spelled {n : Nat} (key : String) (hn : n < 2 ^ 63) :
    Spells (numberEntry key n).text (numberEntry key n).value := spells_number hn

/-- A port is small enough for the format. -/
theorem portEntry_spelled (key : String) (port : UInt16) :
    Spells (numberEntry key port.toNat).text (numberEntry key port.toNat).value :=
  numberEntry_spelled key (Nat.lt_trans port.toNat_lt (by decide))

/-- Entries fit when their keys do and their texts spell their values. -/
theorem fit_of_keys {es : List Entry} {keys : List String} (hkeys : es.map Entry.key = keys)
    (hbare : ∀ k ∈ keys, IsBare k) (hnodup : keys.Nodup)
    (hspelled : ∀ e ∈ es, Spells e.text e.value) : Fit es :=
  ⟨hkeys ▸ hbare, hspelled, hkeys ▸ hnodup⟩

theorem Server.fit (s : Server) : Fit s.written := by
  obtain ⟨address, port, cert, keyPath, wwwRoot, level⟩ := s
  cases wwwRoot with
  | none =>
    have hkeys : (Server.written ⟨address, port, cert, keyPath, none, level⟩).map Entry.key =
        ["bind_address", "port", "cert_path", "key_path", "log_level"] := rfl
    refine fit_of_keys hkeys (by decide) (by decide) ?_
    simp only [Server.written, List.append_nil, List.cons_append, List.nil_append,
      List.forall_mem_cons]
    exact ⟨textEntry_spelled _ _, portEntry_spelled _ _, textEntry_spelled _ _,
      textEntry_spelled _ _, textEntry_spelled _ _, fun _ h => nomatch h⟩
  | some root =>
    have hkeys : (Server.written ⟨address, port, cert, keyPath, some root, level⟩).map Entry.key =
        ["bind_address", "port", "cert_path", "key_path", "www_root", "log_level"] := rfl
    refine fit_of_keys hkeys (by decide) (by decide) ?_
    simp only [Server.written, List.cons_append, List.nil_append, List.forall_mem_cons]
    exact ⟨textEntry_spelled _ _, portEntry_spelled _ _, textEntry_spelled _ _,
      textEntry_spelled _ _, textEntry_spelled _ _, textEntry_spelled _ _, fun _ h => nomatch h⟩

theorem Timeouts.fit {t : Timeouts} (h : t.isWritable = true) : Fit t.written := by
  have hsmall : ∀ n ∈ [t.httpIdle, t.shutdownStage, t.channelWrite, t.tokenTtl],
      n.toNat < 2 ^ 63 := fun n hn => of_decide_eq_true (List.all_eq_true.mp h n hn)
  simp only [List.forall_mem_cons] at hsmall
  obtain ⟨hidle, hstage, hwrite, httl, -⟩ := hsmall
  have hkeys : t.written.map Entry.key =
      ["http_idle_secs", "shutdown_stage_secs", "channel_write_secs", "token_ttl_secs"] := rfl
  refine fit_of_keys hkeys (by decide) (by decide) ?_
  simp only [Timeouts.written, List.forall_mem_cons]
  exact ⟨numberEntry_spelled _ hidle, numberEntry_spelled _ hstage, numberEntry_spelled _ hwrite,
    numberEntry_spelled _ httl, fun _ h => nomatch h⟩

theorem Discovery.fit (d : Discovery) : Fit d.written := by
  have hkeys : d.written.map Entry.key =
      ["enabled", "port", "node_name", "external_host", "external_port"] := rfl
  refine fit_of_keys hkeys (by decide) (by decide) ?_
  simp only [Discovery.written, List.forall_mem_cons]
  exact ⟨spells_boolean _, portEntry_spelled _ _, textEntry_spelled _ _, textEntry_spelled _ _,
    portEntry_spelled _ _, fun _ h => nomatch h⟩

theorem account_fit (a : Account) : Fit (accountWritten a) := by
  have hkeys : (accountWritten a).map Entry.key = ["name", "password", "level"] := rfl
  refine fit_of_keys hkeys (by decide) (by decide) ?_
  simp only [accountWritten, List.forall_mem_cons]
  exact ⟨textEntry_spelled _ _, textEntry_spelled _ _, textEntry_spelled _ _, fun _ h => nomatch h⟩

/-! ## The document as nodes -/

/-- The nodes of the sections, in their order. -/
def sectionNodes (s : Settings) : Nodes :=
  [("server", .table false false (s.server.written.map Entry.node)),
    ("timeouts", .table false false (s.timeouts.written.map Entry.node)),
    ("discovery", .table false false (s.discovery.written.map Entry.node))]

/-- The nodes of a whole document: an empty list of accounts stands in front, the tables of
accounts at the end. -/
def documentNodes (s : Settings) : Nodes :=
  (if s.users.isEmpty then [("users", .value (.array []))] else []) ++ s.sectionNodes ++
    rowsNode "users" (s.users.map fun a => (accountWritten a).map Entry.node).reverse

/-- The sections lead on behind what is there. -/
theorem sections_lead {s : Settings} {d : Document} {root : Nodes}
    (h : s.timeouts.isWritable = true) (hclose : d.close = some root)
    (hnew : ∀ k ∈ ["server", "timeouts", "discovery"], root.lookup k = none) :
    ∃ d', Leads d (s.server.document ++ "\n" ++ s.timeouts.document ++ "\n" ++
        s.discovery.document) d' ∧ d'.close = some (root ++ s.sectionNodes) := by
  have hbehind : ∀ k ∈ ["server", "timeouts", "discovery"], ∀ nodes : Nodes,
      (root ++ nodes).lookup k = nodes.lookup k := by
    intro k hk nodes
    rw [List.lookup_append, hnew k hk, Option.none_or]
  have hkeys : ∀ k ∈ ["server", "timeouts", "discovery"], IsBare k := by decide
  obtain ⟨d₁, hserver, hclose₁⟩ := leads_table (hkeys "server" (by decide)) s.server.fit hclose
    (hnew _ (by decide))
  obtain ⟨d₂, htimeouts, hclose₂⟩ := leads_table (hkeys "timeouts" (by decide))
    (Timeouts.fit h) hclose₁ (by rw [hbehind _ (by decide)]; rfl)
  obtain ⟨d₃, hdiscovery, hclose₃⟩ := leads_table (hkeys "discovery" (by decide)) s.discovery.fit
    hclose₂ (by rw [List.append_assoc, hbehind _ (by decide)]; rfl)
  have hheads : "[" ++ "server" ++ "]\n" = "[server]\n" ∧
      "[" ++ "timeouts" ++ "]\n" = "[timeouts]\n" ∧
      "[" ++ "discovery" ++ "]\n" = "[discovery]\n" := ⟨rfl, rfl, rfl⟩
  rw [hheads.1, ← Server.document_written] at hserver
  rw [hheads.2.1, ← Timeouts.document_written] at htimeouts
  rw [hheads.2.2, ← Discovery.document_written] at hdiscovery
  refine ⟨d₃, (((hserver.append (leads_blank d₁)).append htimeouts).append
    (leads_blank d₂)).append hdiscovery, ?_⟩
  rw [hclose₃, List.append_assoc, List.append_assoc]
  rfl

/-- The text of a document leads from nothing to its nodes. -/
theorem document_leads {s : Settings} {text : String} (h : s.document? = some text) :
    ∃ d, Leads {} text d ∧ d.close = some s.documentNodes := by
  obtain ⟨hwritable, htext⟩ := Option.ite_none_right_eq_some.mp h
  have hparts : ∀ front a b c rows : String, front ++ a ++ "\n" ++ b ++ "\n" ++ c ++ rows =
      front ++ (a ++ "\n" ++ b ++ "\n" ++ c) ++ rows := by
    intro front a b c rows
    simp only [String.append_assoc]
  rw [← Option.some.inj htext, hparts]
  have husers : IsBare "users" := by decide
  cases hlist : s.users with
  | nil =>
    have hentry : Leads {} ("users" ++ " = " ++ "[]" ++ "\n")
        { current := [("users", .value (.array []))] } := leads_entry husers spells_empty rfl
    have hempty := hentry.append (leads_blank _)
    have hfront : "users" ++ " = " ++ "[]" ++ "\n" ++ "\n" = "users = []\n\n" := rfl
    rw [hfront] at hempty
    have hclose : Document.close { current := [("users", .value (.array []))] } =
        some [("users", .value (.array []))] := rfl
    obtain ⟨d, hsections, hend⟩ := sections_lead hwritable hclose (by decide)
    refine ⟨d, ?_, ?_⟩
    · rw [if_pos List.isEmpty_nil]
      exact (hempty.append hsections).append (Leads.nil d)
    · rw [hend, documentNodes, hlist]
      rfl
  | cons a accounts =>
    have hclose : Document.close {} = some [] := rfl
    obtain ⟨d, hsections, hbehind⟩ := sections_lead hwritable hclose (by decide)
    have hnew : s.sectionNodes.lookup "users" = none := rfl
    have hfirst : d.close = some (s.sectionNodes ++ rowsNode "users" []) := hbehind
    have hfit : ∀ es ∈ (a :: accounts).map accountWritten, Fit es := by
      intro es hes
      obtain ⟨a, -, rfl⟩ := List.mem_map.mp hes
      exact account_fit a
    obtain ⟨d', hrows, hend⟩ := leads_rows husers hfit hnew hfirst
    refine ⟨d', ?_, ?_⟩
    · have htexts : (a :: accounts).map accountDocument =
          ((a :: accounts).map accountWritten).map (rowText "users") := by
        rw [List.map_map]
        exact List.map_congr_left fun a _ => account_written a
      rw [if_neg (by rintro ⟨⟩), htexts]
      exact ((Leads.nil {}).append hsections).append hrows
    · rw [hend, documentNodes, hlist, List.append_nil, List.map_map]
      rfl

theorem head_front {front : String} {c : Char} {r : List Char} (h : front.toList = c :: r)
    (text : String) : (front ++ text).toList.head? = some c := by
  rw [String.toList_append, h, List.cons_append, List.head?_cons]

/-- What a document's text is read as. -/
theorem parse_document {s : Settings} {text : String} (h : s.document? = some text) :
    parse? text = some (finishNodes s.documentNodes) := by
  obtain ⟨d, hlead, hclose⟩ := document_leads h
  obtain ⟨-, htext⟩ := Option.ite_none_right_eq_some.mp h
  have hmark : text.toList.head? ≠ some '\uFEFF' := by
    rw [← Option.some.inj htext]
    unfold Server.document
    simp only [String.append_assoc]
    cases s.users with
    | nil =>
      rw [if_pos List.isEmpty_nil, head_front (c := 'u') rfl]
      decide
    | cons a accounts =>
      rw [if_neg (by rintro ⟨⟩), String.empty_append, head_front (c := '[') rfl]
      decide
  exact parse_of_leads hmark hlead hclose

end DeviceGateway.Settings
