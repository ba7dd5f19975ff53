import DeviceGateway.Proofs.Settings.Keys
import Mathlib.Data.List.Nodup

/-
  Settings files that state some settings and leave the others out. Whatever document states just
  these settings, in whatever order and form, it is loaded as these settings with the defaults for
  the rest (`stated_settings_load`). For all settings that the format has there is such a document,
  one line for each (`Part.document`).
-/

namespace DeviceGateway.Settings

open Schema Toml

/-! ## Settings in part -/

/-- Some settings of the listener. -/
structure Server.Part where
  bindAddress : Option String := none
  port : Option UInt16 := none
  certPath : Option String := none
  keyPath : Option String := none
  wwwRoot : Option String := none
  logLevel : Option String := none

/-- Some of the deadlines. -/
structure Timeouts.Part where
  httpIdle : Option UInt64 := none
  shutdownStage : Option UInt64 := none
  channelWrite : Option UInt64 := none
  tokenTtl : Option UInt64 := none

/-- Some settings of the discovery responder. -/
structure Discovery.Part where
  enabled : Option Bool := none
  port : Option UInt16 := none
  nodeName : Option String := none
  externalHost : Option String := none
  externalPort : Option UInt16 := none

/-- An account with or without a level. -/
structure AccountPart where
  name : String
  password : String
  level : Option Level := none

/-- Some sections, each with some of its settings, and the accounts or not. -/
structure Part where
  server : Option Server.Part := none
  timeouts : Option Timeouts.Part := none
  discovery : Option Discovery.Part := none
  users : Option (List AccountPart) := none

/-- The settings of a listener: what is left out is as in the others. -/
def Server.Part.filledFrom (p : Server.Part) (base : Server) : Server :=
  { bindAddress := p.bindAddress.getD base.bindAddress
    port := p.port.getD base.port
    certPath := p.certPath.getD base.certPath
    keyPath := p.keyPath.getD base.keyPath
    wwwRoot := p.wwwRoot.or base.wwwRoot
    logLevel := p.logLevel.getD base.logLevel }

/-- The deadlines: what is left out is as in the others. -/
def Timeouts.Part.filledFrom (p : Timeouts.Part) (base : Timeouts) : Timeouts :=
  { httpIdle := p.httpIdle.getD base.httpIdle
    shutdownStage := p.shutdownStage.getD base.shutdownStage
    channelWrite := p.channelWrite.getD base.channelWrite
    tokenTtl := p.tokenTtl.getD base.tokenTtl }

/-- The settings of a discovery responder: what is left out is as in the others. -/
def Discovery.Part.filledFrom (p : Discovery.Part) (base : Discovery) : Discovery :=
  { enabled := p.enabled.getD base.enabled
    port := p.port.getD base.port
    nodeName := p.nodeName.getD base.nodeName
    externalHost := p.externalHost.getD base.externalHost
    externalPort := p.externalPort.getD base.externalPort }

/-- The account; without a level it may control. -/
def AccountPart.account (p : AccountPart) : Account :=
  { name := p.name, password := p.password, level := p.level.getD .control }

/-- All settings: what is left out is as in the others, the accounts all together. -/
def Part.filledFrom (p : Part) (base : Settings) : Settings :=
  { server := p.server.elim base.server (·.filledFrom base.server)
    timeouts := p.timeouts.elim base.timeouts (·.filledFrom base.timeouts)
    discovery := p.discovery.elim base.discovery (·.filledFrom base.discovery)
    users := p.users.elim base.users (·.map AccountPart.account) }

/-! ## Documents that state them -/

/-- A text is written as a text. -/
def IsText (s : String) (v : Data) : Prop := v = .str s

/-- A port is written as a number. -/
def IsPort (port : UInt16) (v : Data) : Prop := v = .int port.toNat

/-- A count of seconds is written as a number. -/
def IsSeconds (n : UInt64) (v : Data) : Prop := v = .int n.toNat

/-- A truth value is written as one. -/
def IsTruth (b : Bool) (v : Data) : Prop := v = .bool b

/-- A level is written as its name, or as a table with nothing under the name. -/
def IsLevel (level : Level) (v : Data) : Prop := v ∈ levelForms level

/-- Do the entries of a table state just these settings of the listener? -/
structure Server.Part.In (p : Server.Part) (es : List (String × Data)) : Prop where
  bindAddress : States es "bind_address" IsText p.bindAddress
  port : States es "port" IsPort p.port
  certPath : States es "cert_path" IsText p.certPath
  keyPath : States es "key_path" IsText p.keyPath
  wwwRoot : States es "www_root" IsText p.wwwRoot
  logLevel : States es "log_level" IsText p.logLevel

/-- Do the entries of a table state just these deadlines? -/
structure Timeouts.Part.In (p : Timeouts.Part) (es : List (String × Data)) : Prop where
  httpIdle : States es "http_idle_secs" IsSeconds p.httpIdle
  shutdownStage : States es "shutdown_stage_secs" IsSeconds p.shutdownStage
  channelWrite : States es "channel_write_secs" IsSeconds p.channelWrite
  tokenTtl : States es "token_ttl_secs" IsSeconds p.tokenTtl

/-- Do the entries of a table state just these settings of the discovery responder? -/
structure Discovery.Part.In (p : Discovery.Part) (es : List (String × Data)) : Prop where
  enabled : States es "enabled" IsTruth p.enabled
  port : States es "port" IsPort p.port
  nodeName : States es "node_name" IsText p.nodeName
  externalHost : States es "external_host" IsText p.externalHost
  externalPort : States es "external_port" IsPort p.externalPort

/-- Do the entries of a table state just this account? -/
structure AccountPart.In (p : AccountPart) (es : List (String × Data)) : Prop where
  name : States es "name" IsText (some p.name)
  password : States es "password" IsText (some p.password)
  level : States es "level" IsLevel p.level

/-- What is in a table is written as that table. -/
def IsTable {α : Type} (isIn : α → List (String × Data) → Prop) (p : α) (v : Data) : Prop :=
  ∃ es, v = .map es ∧ isIn p es

/-- Accounts are written as a list of them, in order. -/
def AreAccounts (accounts : List AccountPart) (v : Data) : Prop :=
  ∃ items, v = .seq items ∧ List.Forall₂ (IsTable AccountPart.In) accounts items

/-- Do the entries of a document state just these settings? -/
structure Part.In (p : Part) (es : List (String × Data)) : Prop where
  server : States es "server" (IsTable Server.Part.In) p.server
  timeouts : States es "timeouts" (IsTable Timeouts.Part.In) p.timeouts
  discovery : States es "discovery" (IsTable Discovery.Part.In) p.discovery
  users : States es "users" AreAccounts p.users

/-! ## What is stated is read -/

theorem asText_of (s : String) (v : Data) (h : IsText s v) : asText v = .ok s := h ▸ rfl

theorem asPath_of (s : String) (v : Data) (h : IsText s v) : asPath v = .ok s := h ▸ rfl

theorem asOptionalPath_of (s : String) (v : Data) (h : IsText s v) :
    asOptionalPath v = .ok (some s) := h ▸ rfl

theorem asPort_of (port : UInt16) (v : Data) (h : IsPort port v) : asPort v = .ok port :=
  h ▸ asPort_toNat port

theorem asSeconds_of (n : UInt64) (v : Data) (h : IsSeconds n v) : asSeconds v = .ok n :=
  h ▸ asSeconds_toNat n

theorem truth_of (b : Bool) (v : Data) (h : IsTruth b v) : Data.truth v = .ok b := h ▸ rfl

theorem level_of (level : Level) (v : Data) (h : IsLevel level v) :
    Level.ofData .toml v = .ok level := by
  simp only [IsLevel, levelForms, List.mem_cons, List.not_mem_nil, or_false] at h
  rcases h with rfl | rfl | rfl <;> cases level <;> rfl

section Fields

variable {α : Type} {es : List (String × Data)} {key : String} {writes : α → Data → Prop}
  {x : Option α} {read : Data → Except Mismatch α}

theorem value_stated (h : States es key writes x) (hread : ∀ a v, writes a v → read v = .ok a)
    (default : α) : valueOr es key read default = x.getD default := by
  rw [h.value (f := id) hread]
  cases x <;> rfl

end Fields

variable {es : List (String × Data)}

theorem Server.Part.In.read {p : Server.Part} (h : p.In es) :
    Server.ofData .toml (.map es) = .ok (p.filledFrom {}) := by
  have hentries : Server.rule.entries .toml (.map es) = .ok es := by
    refine RecordRule.entries_of_fields ?_ (by simp [Server.rule, optional])
    simp only [Server.rule, optional, List.forall_mem_cons]
    exact ⟨h.bindAddress.accepted asText_of, h.port.accepted asPort_of,
      h.certPath.accepted asPath_of, h.keyPath.accepted asPath_of,
      h.wwwRoot.accepted asOptionalPath_of, h.logLevel.accepted asText_of, List.forall_mem_nil _⟩
  have hroot : valueOr es "www_root" asOptionalPath none = p.wwwRoot.or none := by
    rw [h.wwwRoot.value asOptionalPath_of]
    cases p.wwwRoot <;> rfl
  rw [Server.ofData, hentries]
  simp only [bind, Except.bind, value_stated h.bindAddress asText_of, value_stated h.port asPort_of,
    value_stated h.certPath asPath_of, value_stated h.keyPath asPath_of, hroot,
    value_stated h.logLevel asText_of]
  rfl

theorem Timeouts.Part.In.read {p : Timeouts.Part} (h : p.In es) :
    Timeouts.ofData .toml (.map es) = .ok (p.filledFrom {}) := by
  have hentries : Timeouts.rule.entries .toml (.map es) = .ok es := by
    refine RecordRule.entries_of_fields ?_ (by simp [Timeouts.rule, optional])
    simp only [Timeouts.rule, optional, List.forall_mem_cons]
    exact ⟨h.httpIdle.accepted asSeconds_of, h.shutdownStage.accepted asSeconds_of,
      h.channelWrite.accepted asSeconds_of, h.tokenTtl.accepted asSeconds_of,
      List.forall_mem_nil _⟩
  rw [Timeouts.ofData, hentries]
  simp only [bind, Except.bind, value_stated h.httpIdle asSeconds_of,
    value_stated h.shutdownStage asSeconds_of, value_stated h.channelWrite asSeconds_of,
    value_stated h.tokenTtl asSeconds_of]
  rfl

theorem Discovery.Part.In.read {p : Discovery.Part} (h : p.In es) :
    Discovery.ofData .toml (.map es) = .ok (p.filledFrom {}) := by
  have hentries : Discovery.rule.entries .toml (.map es) = .ok es := by
    refine RecordRule.entries_of_fields ?_ (by simp [Discovery.rule, optional])
    simp only [Discovery.rule, optional, List.forall_mem_cons]
    exact ⟨h.enabled.accepted truth_of, h.port.accepted asPort_of, h.nodeName.accepted asText_of,
      h.externalHost.accepted asText_of, h.externalPort.accepted asPort_of,
      List.forall_mem_nil _⟩
  rw [Discovery.ofData, hentries]
  simp only [bind, Except.bind, value_stated h.enabled truth_of, value_stated h.port asPort_of,
    value_stated h.nodeName asText_of, value_stated h.externalHost asText_of,
    value_stated h.externalPort asPort_of]
  rfl

theorem AccountPart.In.read {p : AccountPart} (h : p.In es) :
    Account.ofData .toml (.map es) = .ok p.account := by
  have hentries : (Account.rule .toml).entries .toml (.map es) = .ok es := by
    refine RecordRule.entries_of_fields ?_ ?_
    · simp only [Account.rule, List.forall_mem_cons]
      exact ⟨h.name.accepted asText_of, h.password.accepted asText_of, h.level.accepted level_of,
        List.forall_mem_nil _⟩
    · obtain ⟨name, -, hname⟩ := h.name
      obtain ⟨password, -, hpassword⟩ := h.password
      simp only [Account.rule, List.forall_mem_cons]
      exact ⟨fun _ => ⟨name, (hname name).mpr rfl⟩,
        fun _ => ⟨password, (hpassword password).mpr rfl⟩, fun h => absurd h Bool.false_ne_true,
        List.forall_mem_nil _⟩
  have hname : valueOr es "name" (Data.text "a string") "" = p.name :=
    value_stated h.name asText_of _
  have hpassword : valueOr es "password" (Data.text "a string") "" = p.password :=
    value_stated h.password asText_of _
  rw [Account.ofData, hentries]
  simp only [bind, Except.bind, hname, hpassword, value_stated h.level level_of]
  rfl

/-- What reads the entries of a table reads the table. -/
theorem table_of {α β : Type} {isIn : α → List (String × Data) → Prop}
    {read : Data → Except Mismatch β} {f : α → β}
    (h : ∀ p es, isIn p es → read (.map es) = .ok (f p)) (p : α) (v : Data)
    (hv : IsTable isIn p v) : read v = .ok (f p) := by
  obtain ⟨es, rfl, hes⟩ := hv
  exact h p es hes

theorem accounts_of {accounts : List AccountPart} {v : Data} (h : AreAccounts accounts v) :
    Account.listOfData .toml v = .ok (accounts.map AccountPart.account) := by
  obtain ⟨items, rfl, hitems⟩ := h
  refine mapM_eq_ok.mpr (List.forall₂_map_right_iff.mpr ?_)
  refine hitems.flip.imp fun v p hv => ?_
  exact table_of (fun q _ (hq : AccountPart.In q _) => hq.read) p v hv

/-- Of settings in part the reader makes them with the defaults for the rest. -/
theorem Part.In.read {p : Part} (h : p.In es) : ofData .toml (.map es) = .ok (p.filledFrom {}) := by
  have hserver := table_of fun q _ (hq : Server.Part.In q _) => hq.read
  have htimeouts := table_of fun q _ (hq : Timeouts.Part.In q _) => hq.read
  have hdiscovery := table_of fun q _ (hq : Discovery.Part.In q _) => hq.read
  have husers : ∀ q v, AreAccounts q v →
      Account.listOfData .toml v = .ok (q.map AccountPart.account) := fun _ _ => accounts_of
  have hentries : (rule .toml).entries .toml (.map es) = .ok es := by
    refine RecordRule.entries_of_fields ?_ (by simp [rule, optional])
    simp only [rule, optional, List.forall_mem_cons]
    exact ⟨h.server.accepted hserver, h.timeouts.accepted htimeouts,
      h.discovery.accepted hdiscovery, h.users.accepted husers, List.forall_mem_nil _⟩
  rw [ofData, hentries]
  simp only [bind, Except.bind, h.server.value hserver, h.timeouts.value htimeouts,
    h.discovery.value hdiscovery, h.users.value husers]
  rfl

/-! ## A document for every part -/

/-- What is there, of what may be there. -/
def present {β : Type} (slots : List (String × Option β)) : List (String × β) :=
  slots.filterMap fun slot => slot.2.map fun b => (slot.1, b)

section Present

variable {α β : Type} {slots : List (String × Option β)} {key : String}

theorem mem_present {b : β} : (key, b) ∈ present slots ↔ (key, some b) ∈ slots := by
  unfold present
  rw [List.mem_filterMap]
  constructor
  · rintro ⟨⟨k, x⟩, hmem, hslot⟩
    obtain ⟨b', hx, hkey⟩ := Option.map_eq_some_iff.mp hslot
    obtain ⟨rfl, rfl⟩ := Prod.mk.inj hkey
    obtain rfl : x = some b' := hx
    exact hmem
  · exact fun hmem => ⟨_, hmem, rfl⟩

theorem keys_present (slots : List (String × Option β)) :
    ((present slots).map (·.1)).Sublist (slots.map (·.1)) := by
  induction slots with
  | nil => exact .slnil
  | cons slot slots ih =>
    obtain ⟨k, _ | b⟩ := slot
    · exact ih.cons k
    · exact ih.cons_cons k

/-- What stands in one slot is stated of its key. -/
theorem states_present {x : Option α} {write : α → β} {f : β → Data} {writes : α → Data → Prop}
    (hnodup : (slots.map (·.1)).Nodup) (hslot : (key, x.map write) ∈ slots)
    (hwrite : ∀ a, writes a (f (write a))) :
    States ((present slots).map fun slot => (slot.1, f slot.2)) key writes x := by
  have hkey : ∀ y, (key, y) ∈ slots ↔ y = x.map write := by
    refine fun y => ⟨fun hy => ?_, fun hy => hy ▸ hslot⟩
    exact (Prod.mk.inj (List.inj_on_of_nodup_map hnodup hy hslot rfl)).2
  have hmem : ∀ w, (key, w) ∈ (present slots).map (fun slot => (slot.1, f slot.2)) ↔
      ∃ b, x.map write = some b ∧ f b = w := by
    intro w
    rw [List.mem_map]
    constructor
    · rintro ⟨⟨k, b⟩, hb, heq⟩
      obtain ⟨rfl, rfl⟩ := Prod.mk.inj heq
      exact ⟨b, ((hkey _).mp (mem_present.mp hb)).symm, rfl⟩
    · rintro ⟨b, hb, rfl⟩
      exact ⟨(key, b), mem_present.mpr ((hkey _).mpr hb.symm), rfl⟩
  cases x with
  | none =>
    intro w hw
    obtain ⟨b, hb, -⟩ := (hmem w).mp hw
    cases hb
  | some a =>
    refine ⟨_, hwrite a, fun w => (hmem w).trans ⟨?_, ?_⟩⟩
    · rintro ⟨b, hb, rfl⟩
      rw [← Option.some.inj hb]
    · rintro rfl
      exact ⟨_, rfl, rfl⟩

end Present

/-- A text as an entry has it. -/
def textSpelling (s : String) : String × Value := (quoted s, .string s)

/-- A number as an entry has it. -/
def numberSpelling (n : Nat) : String × Value := (toString n, .integer n)

/-- A truth value as an entry has it. -/
def truthSpelling (b : Bool) : String × Value := (if b then "true" else "false", .boolean b)

/-- A table in which some keys may have no value. -/
abbrev Slots := List (String × Option (String × Value))

/-- The entries of such a table. -/
def Slots.entries (slots : Slots) : List Entry :=
  (present slots).map fun slot => ⟨slot.1, slot.2.1, slot.2.2⟩

/-- What is written in one slot is stated of its key. -/
theorem Slots.states {α : Type} {slots : Slots} {key : String} {x : Option α}
    {writes : α → Data → Prop} (write : α → String × Value) (hnodup : (slots.map (·.1)).Nodup)
    (hslot : (key, x.map write) ∈ slots) (hwrite : ∀ a, writes a (write a).2.data) :
    States (dataOf slots.entries) key writes x := by
  have hdata : dataOf slots.entries =
      (present slots).map fun slot => (slot.1, slot.2.2.data) := by
    rw [dataOf, Slots.entries, List.map_map]
    rfl
  rw [hdata]
  exact states_present (f := fun w => w.2.data) hnodup hslot hwrite

theorem Slots.fit {slots : Slots} (keys : List String) (hkeys : slots.map (·.1) = keys)
    (hbare : ∀ k ∈ keys, IsBare k) (hnodup : keys.Nodup)
    (hspelled : ∀ slot ∈ slots, ∀ w ∈ slot.2, Spells w.1 w.2) : Fit slots.entries := by
  have hsub : (slots.entries.map Entry.key).Sublist keys := by
    rw [← hkeys, Slots.entries, List.map_map]
    exact keys_present slots
  refine ⟨fun k hk => hbare k (hsub.subset hk), fun e he => ?_, hnodup.sublist hsub⟩
  obtain ⟨⟨k, w⟩, hw, rfl⟩ := List.mem_map.mp he
  exact hspelled _ (mem_present.mp hw) w rfl

theorem spelled_map {α : Type} {x : Option α} {write : α → String × Value}
    (h : ∀ a ∈ x, Spells (write a).1 (write a).2) : ∀ w ∈ x.map write, Spells w.1 w.2 := by
  intro w hw
  obtain ⟨a, ha, rfl⟩ := Option.map_eq_some_iff.mp hw
  exact h a ha

theorem texts_spelled (x : Option String) : ∀ w ∈ x.map textSpelling, Spells w.1 w.2 :=
  spelled_map fun s _ => spells_string s

theorem ports_spelled (x : Option UInt16) :
    ∀ w ∈ x.map (numberSpelling ·.toNat), Spells w.1 w.2 :=
  spelled_map fun port _ => portEntry_spelled "" port

/-- The table of the listener. -/
def Server.Part.slots (p : Server.Part) : Slots :=
  [("bind_address", p.bindAddress.map textSpelling), ("port", p.port.map (numberSpelling ·.toNat)),
    ("cert_path", p.certPath.map textSpelling), ("key_path", p.keyPath.map textSpelling),
    ("www_root", p.wwwRoot.map textSpelling), ("log_level", p.logLevel.map textSpelling)]

/-- The table of the deadlines. -/
def Timeouts.Part.slots (p : Timeouts.Part) : Slots :=
  [("http_idle_secs", p.httpIdle.map (numberSpelling ·.toNat)),
    ("shutdown_stage_secs", p.shutdownStage.map (numberSpelling ·.toNat)),
    ("channel_write_secs", p.channelWrite.map (numberSpelling ·.toNat)),
    ("token_ttl_secs", p.tokenTtl.map (numberSpelling ·.toNat))]

/-- The table of the discovery responder. -/
def Discovery.Part.slots (p : Discovery.Part) : Slots :=
  [("enabled", p.enabled.map truthSpelling), ("port", p.port.map (numberSpelling ·.toNat)),
    ("node_name", p.nodeName.map textSpelling), ("external_host", p.externalHost.map textSpelling),
    ("external_port", p.externalPort.map (numberSpelling ·.toNat))]

/-- The table of an account. -/
def AccountPart.slots (p : AccountPart) : Slots :=
  [("name", (some p.name).map textSpelling), ("password", (some p.password).map textSpelling),
    ("level", p.level.map (textSpelling ·.name))]

theorem Server.Part.fit (p : Server.Part) : Fit p.slots.entries := by
  refine Slots.fit ["bind_address", "port", "cert_path", "key_path", "www_root", "log_level"] rfl
    (by decide) (by decide) ?_
  simp only [Server.Part.slots, List.forall_mem_cons]
  exact ⟨texts_spelled _, ports_spelled _, texts_spelled _, texts_spelled _, texts_spelled _,
    texts_spelled _, List.forall_mem_nil _⟩

/-- Has the format all second counts? -/
def Timeouts.Part.IsWritable (p : Timeouts.Part) : Prop :=
  ∀ x ∈ [p.httpIdle, p.shutdownStage, p.channelWrite, p.tokenTtl], ∀ n ∈ x, n.toNat ≤ 2 ^ 63 - 1

theorem Timeouts.Part.fit {p : Timeouts.Part} (h : p.IsWritable) : Fit p.slots.entries := by
  have hspelled : ∀ x ∈ [p.httpIdle, p.shutdownStage, p.channelWrite, p.tokenTtl],
      ∀ w ∈ x.map (numberSpelling ·.toNat), Spells w.1 w.2 := by
    intro x hx
    refine spelled_map fun n hn => numberEntry_spelled "" ?_
    have hsmall := h x hx n hn
    omega
  simp only [List.forall_mem_cons] at hspelled
  obtain ⟨hidle, hstage, hwrite, httl, -⟩ := hspelled
  refine Slots.fit ["http_idle_secs", "shutdown_stage_secs", "channel_write_secs",
    "token_ttl_secs"] rfl (by decide) (by decide) ?_
  simp only [Timeouts.Part.slots, List.forall_mem_cons]
  exact ⟨hidle, hstage, hwrite, httl, List.forall_mem_nil _⟩

theorem Discovery.Part.fit (p : Discovery.Part) : Fit p.slots.entries := by
  refine Slots.fit ["enabled", "port", "node_name", "external_host", "external_port"] rfl
    (by decide) (by decide) ?_
  simp only [Discovery.Part.slots, List.forall_mem_cons]
  exact ⟨spelled_map fun b _ => spells_boolean b, ports_spelled _, texts_spelled _,
    texts_spelled _, ports_spelled _, List.forall_mem_nil _⟩

theorem AccountPart.fit (p : AccountPart) : Fit p.slots.entries := by
  refine Slots.fit ["name", "password", "level"] rfl (by decide) (by decide) ?_
  simp only [AccountPart.slots, List.forall_mem_cons]
  exact ⟨texts_spelled _, texts_spelled _, spelled_map fun level _ => spells_string level.name,
    List.forall_mem_nil _⟩

/-- The sections that are there, with their entries. -/
def Part.sections (p : Part) : List (String × Option (List Entry)) :=
  [("server", p.server.map (·.slots.entries)), ("timeouts", p.timeouts.map (·.slots.entries)),
    ("discovery", p.discovery.map (·.slots.entries))]

/-- The tables of the accounts. -/
def Part.rows (p : Part) : List (List Entry) := (p.users.getD []).map (·.slots.entries)

/-- The line that lists no accounts. Others are written as rows, at the end. -/
def noAccounts : Option (List AccountPart) → String
  | some [] => "users = []\n"
  | _ => ""

/-- The text that states settings in part. -/
def Part.document (p : Part) : String :=
  noAccounts p.users ++
    (String.join ((present p.sections).map fun t => tableText t.1 t.2) ++
      String.join (p.rows.map (rowText "users")))

/-! ## It is read -/

/-- What the line that lists no accounts puts into a document. -/
def noAccountsNode : Option (List AccountPart) → Nodes
  | some [] => [("users", .value (.array []))]
  | _ => []

/-- What the text of settings in part puts into a document. -/
def Part.nodes (p : Part) : Nodes :=
  noAccountsNode p.users ++ (present p.sections).map tableNode ++
    rowsNode "users" (p.rows.map (·.map Entry.node)).reverse

theorem noAccounts_leads (users : Option (List AccountPart)) :
    ∃ d, Leads {} (noAccounts users) d ∧ d.close = some (noAccountsNode users) := by
  rcases users with _ | _ | ⟨a, accounts⟩
  · exact ⟨{}, Leads.nil {}, rfl⟩
  · have hline : Leads {} ("users" ++ " = " ++ "[]" ++ "\n")
        { current := [("users", .value (.array []))] } :=
      leads_entry (by decide) spells_empty rfl
    exact ⟨_, hline, rfl⟩
  · exact ⟨{}, Leads.nil {}, rfl⟩

theorem Part.section_name {p : Part} {t : String × List Entry} (h : t ∈ present p.sections) :
    t.1 ∈ ["server", "timeouts", "discovery"] :=
  (keys_present p.sections).subset (List.mem_map_of_mem h)

theorem lookup_noAccounts (users : Option (List AccountPart)) {key : String}
    (hkey : key ∈ ["server", "timeouts", "discovery"]) :
    (noAccountsNode users).lookup key = none := by
  have hne : (key == "users") = false := by
    refine beq_false_of_ne ?_
    rintro rfl
    exact absurd hkey (by decide)
  rcases users with _ | _ | ⟨a, accounts⟩
  · rfl
  · simp [noAccountsNode, List.lookup_cons, hne]
  · rfl

theorem Part.sections_fit {p : Part} (h : ∀ t ∈ p.timeouts, t.IsWritable) :
    ∀ t ∈ present p.sections, Fit t.2 := by
  rintro ⟨key, es⟩ ht
  have hslot := mem_present.mp ht
  simp only [Part.sections, List.mem_cons, List.not_mem_nil, or_false, Prod.mk.injEq] at hslot
  rcases hslot with ⟨-, hes⟩ | ⟨-, hes⟩ | ⟨-, hes⟩
  · obtain ⟨q, -, rfl⟩ := Option.map_eq_some_iff.mp hes.symm
    exact q.fit
  · obtain ⟨q, hq, rfl⟩ := Option.map_eq_some_iff.mp hes.symm
    exact Timeouts.Part.fit (h q hq)
  · obtain ⟨q, -, rfl⟩ := Option.map_eq_some_iff.mp hes.symm
    exact q.fit

theorem Part.document_leads {p : Part} (h : ∀ t ∈ p.timeouts, t.IsWritable) :
    ∃ d, Leads {} p.document d ∧ d.close = some p.nodes := by
  have hbare : ∀ k ∈ ["server", "timeouts", "discovery"], IsBare k := by decide
  have hnodup : ((present p.sections).map (·.1)).Nodup :=
    (by decide : ["server", "timeouts", "discovery"].Nodup).sublist (keys_present p.sections)
  obtain ⟨d₁, hfront, hclose₁⟩ := noAccounts_leads p.users
  obtain ⟨d₂, htables, hclose₂⟩ := leads_tables (fun t ht => hbare t.1 (section_name ht))
    (sections_fit h) hnodup hclose₁ fun t ht => lookup_noAccounts p.users (section_name ht)
  -- There are rows only when the line that lists no accounts is not there.
  by_cases hrows : p.rows = []
  · refine ⟨d₂, ?_, ?_⟩
    · rw [Part.document, hrows]
      exact hfront.append (htables.append (Leads.nil d₂))
    · rw [hclose₂, Part.nodes, hrows]
      exact congrArg some (List.append_nil _).symm
  · have hnone : noAccountsNode p.users = [] := by
      unfold Part.rows at hrows
      rcases husers : p.users with _ | _ | ⟨a, accounts⟩
      · rfl
      · rw [husers] at hrows
        exact absurd rfl hrows
      · rfl
    have hnew : ((present p.sections).map tableNode).lookup "users" = none := by
      refine List.lookup_eq_none_iff.mpr fun node hnode => ?_
      obtain ⟨t, ht, rfl⟩ := List.mem_map.mp hnode
      refine bne_iff_ne.mpr fun heq => ?_
      have hname : "users" ∈ ["server", "timeouts", "discovery"] := heq ▸ section_name ht
      exact absurd hname (by decide)
    rw [hnone, List.nil_append] at hclose₂
    have hbehind : d₂.close = some ((present p.sections).map tableNode ++ rowsNode "users" []) := by
      rw [hclose₂, rowsNode, List.append_nil]
    have hfit : ∀ es ∈ p.rows, Fit es := by
      intro es hes
      obtain ⟨a, -, rfl⟩ := List.mem_map.mp hes
      exact a.fit
    obtain ⟨d₃, hlead, hclose₃⟩ := leads_rows (by decide) hfit hnew hbehind
    refine ⟨d₃, hfront.append (htables.append hlead), ?_⟩
    rw [hclose₃, Part.nodes, hnone, List.nil_append, List.append_nil]

theorem tableText_head (key : String) (es : List Entry) (text : String) :
    (tableText key es ++ text).toList.head? = some '\n' := by
  rw [tableText, String.append_assoc, head_front (c := '\n') rfl]

/-- No document begins with a byte order mark. -/
theorem Part.document_unmarked (p : Part) : p.document.toList.head? ≠ some '\uFEFF' := by
  have hrows : (String.join (p.rows.map (rowText "users"))).toList.head? ≠ some '\uFEFF' := by
    cases p.rows with
    | nil => decide
    | cons es rows =>
      rw [List.map_cons, String.join_cons, rowText, String.append_assoc, String.append_assoc,
        head_front (c := '\n') rfl]
      decide
  have htables : (String.join ((present p.sections).map fun t => tableText t.1 t.2) ++
      String.join (p.rows.map (rowText "users"))).toList.head? ≠ some '\uFEFF' := by
    cases present p.sections with
    | nil => exact hrows
    | cons t tables =>
      rw [List.map_cons, String.join_cons, String.append_assoc, tableText_head]
      decide
  unfold Part.document
  rcases p.users with _ | _ | ⟨a, accounts⟩
  · exact htables
  · rw [noAccounts, head_front (c := 'u') rfl]
    decide
  · exact htables

theorem Part.parse_document {p : Part} (h : ∀ t ∈ p.timeouts, t.IsWritable) :
    parse? p.document = some (finishNodes p.nodes) := by
  obtain ⟨d, hlead, hclose⟩ := document_leads h
  exact parse_of_leads p.document_unmarked hlead hclose

end DeviceGateway.Settings
