import DeviceGateway.Proofs.Outcome
import DeviceGateway.Proofs.Schema.Records
import DeviceGateway.Proofs.Settings.File
import DeviceGateway.Proofs.Toml.Distinct

/-
  What becomes of the keys of a settings file. Every key that is the name of a setting has the value
  in the settings that it has in the file; every other key is passed over, so a misspelt name leaves
  its setting at the default and nobody is told (`known_keys_are_kept`, `misspelt_users_are_lost`).
-/

namespace DeviceGateway

open Schema Toml

/-! ## Values of a document -/

theorem Toml.dataOfItems_eq (items : List Value) : dataOfItems items = items.map Value.data := by
  induction items with
  | nil => rfl
  | cons v items ih => rw [dataOfItems, ih, List.map_cons]

theorem Toml.dataOfEntries_eq (entries : Entries) :
    dataOfEntries entries = entries.map fun e => (e.1, e.2.data) := by
  induction entries with
  | nil => rfl
  | cons e entries ih => rw [dataOfEntries, ih, List.map_cons]

theorem Toml.Value.Distinct.data {v : Value} (h : v.Distinct) : v.data.FromToml := by
  induction h with
  | string s => exact .str s
  | integer n => exact .int n
  | float x => exact .float _
  | boolean b => exact .bool b
  | moment text => exact .moment
  | @array items _ ih =>
    show (Data.seq (dataOfItems items)).FromToml
    rw [dataOfItems_eq]
    refine .seq fun d hd => ?_
    obtain ⟨v, hv, rfl⟩ := List.mem_map.mp hd
    exact ih v hv
  | @table entries hkeys _ ih =>
    show (Data.map (dataOfEntries entries)).FromToml
    rw [dataOfEntries_eq]
    refine .map ?_ fun e he => ?_
    · rw [List.map_map]
      exact hkeys
    · obtain ⟨e', he', rfl⟩ := List.mem_map.mp he
      exact ih e' he'

namespace Settings

variable {d v : Data} {format : Format}

/-! ## Readers read nothing but what they write -/

theorem text_eq_ok {expected s : String} : Data.text expected v = .ok s ↔ v = .str s := by
  constructor
  · intro h
    cases v with
    | str t => cases h; rfl
    | _ => cases h
  · rintro rfl
    rfl

theorem truth_eq_ok {b : Bool} : Data.truth v = .ok b ↔ v = .bool b := by
  constructor
  · intro h
    cases v with
    | bool b' => cases h; rfl
    | _ => cases h
  · rintro rfl
    rfl

theorem whole_eq_ok {bits n : Nat} (h : v.whole bits = .ok n) :
    v = .int n ∧ n < Nat.pow 2 bits := by
  cases v with
  | int m =>
    unfold Data.whole at h
    dsimp only at h
    by_cases hrange : (decide (0 ≤ m) && decide (m < (Nat.pow 2 bits : Nat))) = true
    · rw [if_pos hrange] at h
      have hn : m.toNat = n := Except.ok.inj h
      simp only [Bool.and_eq_true, decide_eq_true_eq] at hrange
      refine ⟨congrArg Data.int ?_, ?_⟩
      · omega
      · omega
    · rw [if_neg hrange] at h
      cases h
  | _ => cases h

theorem asPort_eq_ok {port : UInt16} (h : asPort v = .ok port) : v = .int port.toNat := by
  unfold asPort at h
  cases hwhole : v.whole 16 with
  | error m =>
    rw [hwhole] at h
    cases h
  | ok n =>
    rw [hwhole] at h
    obtain ⟨rfl, hlt⟩ := whole_eq_ok hwhole
    have hport : UInt16.ofNat n = port := Except.ok.inj h
    rw [← hport, UInt16.toNat_ofNat', Nat.mod_eq_of_lt hlt]

theorem asSeconds_eq_ok {n : UInt64} (h : asSeconds v = .ok n) : v = .int n.toNat := by
  unfold asSeconds at h
  cases hwhole : v.whole 64 with
  | error m =>
    rw [hwhole] at h
    cases h
  | ok k =>
    rw [hwhole] at h
    obtain ⟨rfl, hlt⟩ := whole_eq_ok hwhole
    have hseconds : UInt64.ofNat k = n := Except.ok.inj h
    rw [← hseconds, UInt64.toNat_ofNat', Nat.mod_eq_of_lt hlt]

theorem asOptionalPath_eq_ok {path : Option String} (hv : v.FromToml)
    (h : asOptionalPath v = .ok path) : ∃ s, v = .str s ∧ path = some s := by
  cases hv with
  | str s => exact ⟨s, rfl, (Except.ok.inj h).symm⟩
  | bool | int | float | moment | seq | map => cases h

/-! ## Sections -/

/-- Is a value a record whose fields are all among the entries of a document? -/
structure Kept (r : RecordRule) (v : Data) (written : List Entry) : Prop where
  shape : (∃ es, v = .map es) ∨ (∃ items, v = .seq items) ∨ v = .moment
  fields : ∀ e ∈ r.given v, e ∈ dataOf written

section Fields

variable {r : RecordRule} {es : List (String × Data)} {name : String}

/-- A record that is taken is kept when each of its fields is. -/
theorem kept_of_taken {written : List Entry} (h : r.Taken d es)
    (hfields : ∀ name ∈ r.names, ∀ v, (name, v) ∈ r.given d → (name, v) ∈ dataOf written) :
    Kept r d written :=
  ⟨h.shape, fun e he => hfields e.1 (RecordRule.name_of_given he) e.2 he⟩

theorem optional_given {α : Type} {read : Data → Except Mismatch α} (h : r.Taken d es)
    (hfield : optional name read ∈ r.fields) (hgiven : (name, v) ∈ r.given d) (default : α) :
    read v = .ok (valueOr es name read default) :=
  h.read_of_given hfield rfl hgiven default

theorem text_given (h : r.Taken d es) (hgiven : (name, v) ∈ r.given d) (default : String)
    (hfield : optional name asText ∈ r.fields) : v = .str (valueOr es name asText default) :=
  text_eq_ok.mp (optional_given h hfield hgiven default)

theorem path_given (h : r.Taken d es) (hgiven : (name, v) ∈ r.given d) (default : String)
    (hfield : optional name asPath ∈ r.fields) : v = .str (valueOr es name asPath default) :=
  text_eq_ok.mp (optional_given h hfield hgiven default)

theorem port_given (h : r.Taken d es) (hgiven : (name, v) ∈ r.given d) (default : UInt16)
    (hfield : optional name asPort ∈ r.fields) :
    v = .int (valueOr es name asPort default).toNat :=
  asPort_eq_ok (optional_given h hfield hgiven default)

theorem seconds_given (h : r.Taken d es) (hgiven : (name, v) ∈ r.given d) (default : UInt64)
    (hfield : optional name asSeconds ∈ r.fields) :
    v = .int (valueOr es name asSeconds default).toNat :=
  asSeconds_eq_ok (optional_given h hfield hgiven default)

theorem truth_given (h : r.Taken d es) (hgiven : (name, v) ∈ r.given d) (default : Bool)
    (hfield : optional name Data.truth ∈ r.fields) :
    v = .bool (valueOr es name Data.truth default) :=
  truth_eq_ok.mp (optional_given h hfield hgiven default)

end Fields

theorem dataOf_append (es es' : List Entry) : dataOf (es ++ es') = dataOf es ++ dataOf es' :=
  List.map_append

/-- What a document says of the listener. -/
theorem Server.mem_written (s : Server) :
    ("bind_address", .str s.bindAddress) ∈ dataOf s.written ∧
    ("port", .int s.port.toNat) ∈ dataOf s.written ∧
    ("cert_path", .str s.certPath) ∈ dataOf s.written ∧
    ("key_path", .str s.keyPath) ∈ dataOf s.written ∧
    (∀ root, s.wwwRoot = some root → ("www_root", .str root) ∈ dataOf s.written) ∧
    ("log_level", .str s.logLevel) ∈ dataOf s.written := by
  refine ⟨by simp [Server.written], by simp [Server.written], by simp [Server.written],
    by simp [Server.written], fun root hroot => ?_, by simp [Server.written, dataOf_append]⟩
  simp [Server.written, hroot]

theorem Server.kept {s : Server} (hd : d.FromToml) (h : Server.ofData .toml d = .ok s) :
    Kept Server.rule d s.written := by
  obtain ⟨es, hes, hs⟩ := bind_eq_ok.mp h
  obtain rfl := Except.ok.inj hs
  have htaken : Server.rule.Taken d es := ⟨by decide, hd, hes⟩
  obtain ⟨haddress, hport, hcert, hkey, hroot, hlevel⟩ := Server.mem_written _
  refine kept_of_taken htaken ?_
  simp only [RecordRule.names, Server.rule, optional, List.map_cons, List.map_nil,
    List.forall_mem_cons]
  refine ⟨fun v he => ?_, fun v he => ?_, fun v he => ?_, fun v he => ?_, fun v he => ?_,
    fun v he => ?_, List.forall_mem_nil _⟩
  · rw [text_given htaken he _ (by simp [Server.rule])]
    exact haddress
  · rw [port_given htaken he _ (by simp [Server.rule])]
    exact hport
  · rw [path_given htaken he _ (by simp [Server.rule])]
    exact hcert
  · rw [path_given htaken he _ (by simp [Server.rule])]
    exact hkey
  · obtain ⟨root, rfl, heq⟩ := asOptionalPath_eq_ok (htaken.fromToml_of_given he)
      (optional_given htaken (by simp [Server.rule]) he _)
    exact hroot root heq
  · rw [text_given htaken he _ (by simp [Server.rule])]
    exact hlevel

theorem Timeouts.kept {t : Timeouts} (hd : d.FromToml) (h : Timeouts.ofData .toml d = .ok t) :
    Kept Timeouts.rule d t.written := by
  obtain ⟨es, hes, ht⟩ := bind_eq_ok.mp h
  obtain rfl := Except.ok.inj ht
  have htaken : Timeouts.rule.Taken d es := ⟨by decide, hd, hes⟩
  refine kept_of_taken htaken ?_
  simp only [RecordRule.names, Timeouts.rule, optional, List.map_cons, List.map_nil,
    List.forall_mem_cons]
  refine ⟨fun v he => ?_, fun v he => ?_, fun v he => ?_, fun v he => ?_, List.forall_mem_nil _⟩
  · rw [seconds_given htaken he _ (by simp [Timeouts.rule])]
    exact .head _
  · rw [seconds_given htaken he _ (by simp [Timeouts.rule])]
    exact .tail _ (.head _)
  · rw [seconds_given htaken he _ (by simp [Timeouts.rule])]
    exact .tail _ (.tail _ (.head _))
  · rw [seconds_given htaken he _ (by simp [Timeouts.rule])]
    exact .tail _ (.tail _ (.tail _ (.head _)))

theorem Discovery.kept {i : Discovery} (hd : d.FromToml) (h : Discovery.ofData .toml d = .ok i) :
    Kept Discovery.rule d i.written := by
  obtain ⟨es, hes, hi⟩ := bind_eq_ok.mp h
  obtain rfl := Except.ok.inj hi
  have htaken : Discovery.rule.Taken d es := ⟨by decide, hd, hes⟩
  refine kept_of_taken htaken ?_
  simp only [RecordRule.names, Discovery.rule, optional, List.map_cons, List.map_nil,
    List.forall_mem_cons]
  refine ⟨fun v he => ?_, fun v he => ?_, fun v he => ?_, fun v he => ?_, fun v he => ?_,
    List.forall_mem_nil _⟩
  · rw [truth_given htaken he _ (by simp [Discovery.rule])]
    exact .head _
  · rw [port_given htaken he _ (by simp [Discovery.rule])]
    exact .tail _ (.head _)
  · rw [text_given htaken he _ (by simp [Discovery.rule])]
    exact .tail _ (.tail _ (.head _))
  · rw [text_given htaken he _ (by simp [Discovery.rule])]
    exact .tail _ (.tail _ (.tail _ (.head _)))
  · rw [port_given htaken he _ (by simp [Discovery.rule])]
    exact .tail _ (.tail _ (.tail _ (.tail _ (.head _))))

/-! ## Accounts -/

/-- The ways to write a level: its name, or a map with nothing under the name. -/
def levelForms (level : Level) : List Data :=
  [.str level.name, .map [(level.name, .map [])], .map [(level.name, .seq [])]]

theorem named_eq_ok {name : String} {level : Level} (h : Level.ofData.named name = .ok level) :
    name = level.name := by
  unfold Level.ofData.named at h
  cases hfind : Level.ofName? name with
  | none =>
    rw [hfind] at h
    cases h
  | some level' =>
    rw [hfind] at h
    cases h
    have hname := List.find?_some hfind
    exact (of_decide_eq_true hname).symm

theorem level_eq_ok {level : Level} (h : Level.ofData .toml v = .ok level) :
    v ∈ levelForms level := by
  unfold Level.ofData at h
  split at h
  · rw [named_eq_ok h]
    exact .head _
  · obtain ⟨level', hnamed, h⟩ := bind_eq_ok.mp h
    rw [named_eq_ok hnamed]
    split at h
    · cases ‹Format.toml = Format.json›
    · cases h
      exact .tail _ (.head _)
    · cases h
      exact .tail _ (.tail _ (.head _))
    · cases ‹Format.toml = Format.json›
    · cases h
    · cases h
    · cases h
  · cases h
  · cases h

/-- Is a value a record of an account, every part of it found in the account? -/
structure AccountKept (v : Data) (a : Account) : Prop where
  shape : (∃ es, v = .map es) ∨ (∃ items, v = .seq items) ∨ v = .moment
  name : ∀ w, ("name", w) ∈ (Account.rule .toml).given v → w = .str a.name
  password : ∀ w, ("password", w) ∈ (Account.rule .toml).given v → w = .str a.password
  level : ∀ w, ("level", w) ∈ (Account.rule .toml).given v → w ∈ levelForms a.level

theorem account_kept {a : Account} (hd : d.FromToml) (h : Account.ofData .toml d = .ok a) :
    AccountKept d a := by
  obtain ⟨es, hes, ha⟩ := bind_eq_ok.mp h
  obtain rfl := Except.ok.inj ha
  have htaken : (Account.rule .toml).Taken d es := ⟨by decide, hd, hes⟩
  refine ⟨htaken.shape, fun w hw => ?_, fun w hw => ?_, fun w hw => ?_⟩
  · exact text_eq_ok.mp (htaken.read_of_given (.head _) rfl hw "")
  · exact text_eq_ok.mp (htaken.read_of_given (.tail _ (.head _)) rfl hw "")
  · exact level_eq_ok (htaken.read_of_given (.tail _ (.tail _ (.head _))) rfl hw .control)

theorem accounts_kept {accounts : List Account} (hd : d.FromToml)
    (h : Account.listOfData .toml d = .ok accounts) :
    ∃ items, d = .seq items ∧ List.Forall₂ AccountKept items accounts := by
  cases hd with
  | @seq items hitems =>
    refine ⟨items, rfl, ?_⟩
    have hread : List.Forall₂ (fun d a => Account.ofData .toml d = .ok a) items accounts :=
      mapM_eq_ok.mp h
    clear h
    induction hread with
    | nil => exact .nil
    | cons hx _ ih =>
      obtain ⟨hfirst, hrest⟩ := List.forall_mem_cons.mp hitems
      exact .cons (account_kept hfirst hx) (ih hrest)
  | bool | int | float | str | moment | map => cases h

/-! ## Keys that name no setting -/

theorem Server.ofData_known (d : Data) :
    Server.ofData .toml (Server.rule.known d) = Server.ofData .toml d := by
  refine RecordRule.bind_entries_known (fun es => ?_) .toml d
  simp (disch := decide) only [RecordRule.valueOr_known]

theorem Timeouts.ofData_known (d : Data) :
    Timeouts.ofData .toml (Timeouts.rule.known d) = Timeouts.ofData .toml d := by
  refine RecordRule.bind_entries_known (fun es => ?_) .toml d
  simp (disch := decide) only [RecordRule.valueOr_known]

theorem Discovery.ofData_known (d : Data) :
    Discovery.ofData .toml (Discovery.rule.known d) = Discovery.ofData .toml d := by
  refine RecordRule.bind_entries_known (fun es => ?_) .toml d
  simp (disch := decide) only [RecordRule.valueOr_known]

theorem account_ofData_known (d : Data) :
    Account.ofData .toml ((Account.rule .toml).known d) = Account.ofData .toml d := by
  refine RecordRule.bind_entries_known (fun es => ?_) .toml d
  simp (disch := decide) only [RecordRule.valueOr_known]

/-- Accounts without the keys that are no part of an account. -/
def knownAccounts : Data → Data
  | .seq items => .seq (items.map (Account.rule .toml).known)
  | d => d

theorem accounts_ofData_known (d : Data) :
    Account.listOfData .toml (knownAccounts d) = Account.listOfData .toml d := by
  cases d with
  | seq items =>
    show (items.map (Account.rule .toml).known).mapM (Account.ofData .toml) =
      items.mapM (Account.ofData .toml)
    induction items with
    | nil => rfl
    | cons d items ih =>
      rw [List.map_cons, List.mapM_cons, List.mapM_cons, ih, account_ofData_known]
  | null | bool | int | float | str | map | moment => rfl

/-- A part of the settings without the keys that name none of its settings. -/
def knownPart (key : String) (d : Data) : Data :=
  if key = "server" then Server.rule.known d
  else if key = "timeouts" then Timeouts.rule.known d
  else if key = "discovery" then Discovery.rule.known d
  else if key = "users" then knownAccounts d
  else d

/-- A document without the keys that name no setting, at the top and in every part. -/
def known : Data → Data
  | .map es => .map (RecordRule.replaced knownPart (es.filter (·.1 ∈ (rule .toml).names)))
  | d => d

/-- Keys that name no setting make no difference. -/
theorem ofData_known (d : Data) : ofData .toml (known d) = ofData .toml d := by
  have hserver : ∀ v, Server.ofData .toml (knownPart "server" v) = Server.ofData .toml v :=
    Server.ofData_known
  have htimeouts : ∀ v, Timeouts.ofData .toml (knownPart "timeouts" v) = Timeouts.ofData .toml v :=
    Timeouts.ofData_known
  have hdiscovery : ∀ v,
      Discovery.ofData .toml (knownPart "discovery" v) = Discovery.ofData .toml v :=
    Discovery.ofData_known
  have husers : ∀ v, Account.listOfData .toml (knownPart "users" v) = Account.listOfData .toml v :=
    accounts_ofData_known
  cases d with
  | map es =>
    -- First the keys inside of every part, then those at the top.
    calc ofData .toml (known (.map es))
        = ofData .toml ((rule .toml).known (.map es)) := by
          refine RecordRule.bind_entries_replaced ?_ (fun es => ?_) .toml _
          · simp only [rule, List.forall_mem_cons]
            exact ⟨fun v => congrArg (Except.map _) (hserver v),
              fun v => congrArg (Except.map _) (htimeouts v),
              fun v => congrArg (Except.map _) (hdiscovery v),
              fun v => congrArg (Except.map _) (husers v), List.forall_mem_nil _⟩
          · simp only [RecordRule.valueOr_replaced hserver, RecordRule.valueOr_replaced htimeouts,
              RecordRule.valueOr_replaced hdiscovery, RecordRule.valueOr_replaced husers]
      _ = ofData .toml (.map es) := by
          refine RecordRule.bind_entries_known (fun es => ?_) .toml (.map es)
          simp (disch := decide) only [RecordRule.valueOr_known]
  | null | bool | int | float | str | seq | moment => rfl

/-! ## Files -/

/-- Is everything in a document that names a setting found in the settings? -/
structure FoundIn (d : Data) (s : Settings) : Prop where
  server : ∀ v, ("server", v) ∈ (rule .toml).given d → Kept Server.rule v s.server.written
  timeouts : ∀ v, ("timeouts", v) ∈ (rule .toml).given d →
    Kept Timeouts.rule v s.timeouts.written
  discovery : ∀ v, ("discovery", v) ∈ (rule .toml).given d →
    Kept Discovery.rule v s.discovery.written
  users : ∀ v, ("users", v) ∈ (rule .toml).given d →
    ∃ items, v = .seq items ∧ List.Forall₂ AccountKept items s.users

theorem foundIn_of_ofData {s : Settings} (hd : d.FromToml) (h : ofData .toml d = .ok s) :
    FoundIn d s := by
  obtain ⟨es, hes, hs⟩ := bind_eq_ok.mp h
  obtain rfl := Except.ok.inj hs
  have htaken : (rule .toml).Taken d es := ⟨by decide, hd, hes⟩
  refine ⟨fun v hv => ?_, fun v hv => ?_, fun v hv => ?_, fun v hv => ?_⟩
  · exact Server.kept (htaken.fromToml_of_given hv) (optional_given htaken (.head _) hv {})
  · exact Timeouts.kept (htaken.fromToml_of_given hv)
      (optional_given htaken (.tail _ (.head _)) hv {})
  · exact Discovery.kept (htaken.fromToml_of_given hv)
      (optional_given htaken (.tail _ (.tail _ (.head _))) hv {})
  · exact accounts_kept (htaken.fromToml_of_given hv)
      (optional_given htaken (.tail _ (.tail _ (.tail _ (.head _)))) hv _)

/-- Settings are loaded from a file that is there just when it is a document of TOML whose data are
settings. -/
theorem load_eq_ok {files : Files.Tree} {path : String} {body : Bytes} {s : Settings}
    (hread : files.read path = .ok body) : load files path = .ok s ↔
      ∃ text entries, Utf8.decode? body = some text ∧ parse? text = some entries ∧
        ofData .toml (Value.table entries).data = .ok s := by
  unfold load ofDocument
  rw [hread]
  dsimp only
  constructor
  · intro h
    split at h
    · cases h
    · next text htext =>
      split at h
      · next s' hdocument =>
        cases h
        split at hdocument
        · cases hdocument
        · next entries hentries =>
          split at hdocument
          · next hdata =>
            cases hdocument
            exact ⟨text, entries, htext, hentries, hdata⟩
          · cases hdocument
      · cases h
  · rintro ⟨text, entries, htext, hentries, hdata⟩
    rw [htext]
    dsimp only
    rw [hentries]
    dsimp only
    rw [hdata]

/-- When settings are loaded from a file that is there, the file is a document, and all that it says
under a key that names a setting is found in the settings: of each section and each account every
field, and nothing else in its place. Any other key is passed over: a document that differs in
nothing but keys that name no setting gives the same settings. -/
theorem known_keys_are_kept {files : Files.Tree} {path : String} {body : Bytes} {s : Settings}
    (hread : files.read path = .ok body) (hload : load files path = .ok s) :
    ∃ text entries, Utf8.decode? body = some text ∧ parse? text = some entries ∧
      FoundIn (Value.table entries).data s ∧
      ∀ files' path' body' text' entries', Files.Tree.read files' path' = .ok body' →
        Utf8.decode? body' = some text' → parse? text' = some entries' →
        known (Value.table entries').data = known (Value.table entries).data →
        load files' path' = .ok s := by
  obtain ⟨text, entries, htext, hentries, hdata⟩ := (load_eq_ok hread).mp hload
  refine ⟨text, entries, htext, hentries,
    foundIn_of_ofData (parse_distinct hentries).data hdata, ?_⟩
  intro files' path' body' text' entries' hread' htext' hentries' hsame
  refine (load_eq_ok hread').mpr ⟨text', entries', htext', hentries', ?_⟩
  rw [← ofData_known, hsame, ofData_known]
  exact hdata

/-- A document with names that are misspelt: at the top, in a section and in an account. -/
def misspelt : String :=
  "colour = \"red\"\n[server]\nport = 80\nprot = 81\n" ++
  "[[users]]\nname = \"ann\"\npassword = \"p\"\nrole = \"admin\"\n"

/-- What is left of it. -/
def misspeltSettings : Settings :=
  { server := { port := 80 }, users := [{ name := "ann", password := "p", level := .control }] }

theorem misspelt_keys_are_passed_over :
    let files : Files.Tree := ⟨[(["home.toml"], .file (utf8 misspelt))]⟩
    load files "home.toml" = .ok misspeltSettings ∧
      ∃ entries, parse? misspelt = some entries ∧
        FoundIn (Value.table entries).data misspeltSettings := by
  intro files
  have hread : files.read "home.toml" = .ok (utf8 misspelt) := rfl
  have hload : load files "home.toml" = .ok misspeltSettings :=
    eq_ok_of_toOption (by decide +kernel)
  obtain ⟨text, entries, htext, hentries, hfound, -⟩ := known_keys_are_kept hread hload
  obtain rfl := Option.some.inj ((Utf8.decode_utf8 misspelt).symm.trans htext)
  exact ⟨hload, entries, hentries, hfound⟩

/-- Accounts under a misspelt name are lost, and the account of the defaults is in their place. -/
theorem misspelt_users_are_lost :
    let text := "[[user]]\nname = \"root\"\npassword = \"s3cret\"\n"
    (parse? text).map (fun entries => entries.map (·.1)) = some ["user"] ∧
      "user" ∉ (rule .toml).names ∧
      load ⟨[(["home.toml"], .file (utf8 text))]⟩ "home.toml" = .ok {} := by
  intro text
  have hkeys : (parse? text).map (fun entries => entries.map (·.1)) = some ["user"] := by
    decide +kernel
  exact ⟨hkeys, by decide, eq_ok_of_toOption (by decide +kernel)⟩

end Settings

end DeviceGateway
