import DeviceGateway.Proofs.Schema.Records
import DeviceGateway.Proofs.Settings.Document

/-
  A document of settings is read as the settings it was written from. What a schema sees of a table
  are the values of its entries (`data_of_entries`), each field reads its own value back, and a map
  whose entries fit their fields is taken as it is (`RecordRule.entries_of_fit`): so each section
  gives itself back, and all together the settings (`ofDocument_document`). An empty list of
  accounts is written as one, and comes back as one.
-/

namespace DeviceGateway.Settings

open Toml Schema

/-! ## What a schema sees -/

/-- The entries of a table as a schema sees them. -/
def dataOf (es : List Entry) : List (String × Data) := es.map fun e => (e.key, e.value.data)

@[simp] theorem dataOf_nil : dataOf [] = [] := rfl

@[simp] theorem dataOf_text (key s : String) (es : List Entry) :
    dataOf (textEntry key s :: es) = (key, .str s) :: dataOf es := rfl

@[simp] theorem dataOf_number (key : String) (n : Nat) (es : List Entry) :
    dataOf (numberEntry key n :: es) = (key, .int n) :: dataOf es := rfl

@[simp] theorem dataOf_boolean (key text : String) (b : Bool) (es : List Entry) :
    dataOf (⟨key, text, .boolean b⟩ :: es) = (key, .bool b) :: dataOf es := rfl

theorem data_of_entries (es : List Entry) :
    dataOfEntries (finishNodes (es.map Entry.node)) = dataOf es := by
  induction es with
  | nil => rfl
  | cons e es ih =>
    show (e.key, e.value.data) :: dataOfEntries (finishNodes (es.map Entry.node)) = _
    rw [ih]
    rfl

theorem data_of_rows (tables : List (List Entry)) (done : List Value) :
    dataOfItems (finishRows (tables.map (·.map Entry.node)) done) =
      (tables.map fun es => Data.map (dataOf es)).reverse ++ dataOfItems done := by
  induction tables generalizing done with
  | nil => rfl
  | cons es tables ih =>
    rw [List.map_cons, finishRows, ih, List.map_cons, List.reverse_cons, List.append_assoc]
    show _ ++ Data.map (dataOfEntries _) :: _ = _
    rw [data_of_entries]
    rfl

/-- Rows come earliest first, as they were written. -/
theorem data_of_rowsNode (key : String) {tables : List (List Entry)} (h : tables ≠ []) :
    dataOfEntries (finishNodes (rowsNode key (tables.map (·.map Entry.node)).reverse)) =
      [(key, .seq (tables.map fun es => .map (dataOf es)))] := by
  have hne : (tables.map (·.map Entry.node)).reverse ≠ [] := by simpa using h
  rw [rowsNode_of_ne hne, ← List.map_reverse]
  show [(key, Data.seq (dataOfItems (finishRows _ [])))] = _
  rw [data_of_rows, List.map_reverse, List.reverse_reverse]
  exact congrArg (fun items => [(key, Data.seq items)]) (List.append_nil _)

@[simp] theorem asText_str (s : String) : asText (.str s) = .ok s := rfl

@[simp] theorem asPath_str (s : String) : asPath (.str s) = .ok s := rfl

@[simp] theorem asOptionalPath_str (s : String) : asOptionalPath (.str s) = .ok (some s) := rfl

@[simp] theorem truth_bool (b : Bool) : Data.truth (.bool b) = .ok b := rfl

@[simp] theorem text_str (expected s : String) : Data.text expected (.str s) = .ok s := rfl

@[simp] theorem asPort_toNat (port : UInt16) : asPort (.int port.toNat) = .ok port := by
  have hbound : (port.toNat : Int) < Nat.pow 2 16 := Int.ofNat_lt.mpr port.toNat_lt
  have hwhole : (Data.int port.toNat).whole 16 = .ok port.toNat := by
    rw [Data.whole, if_pos (by simpa using hbound), Int.toNat_natCast]
  rw [asPort, hwhole]
  exact congrArg Except.ok port.ofNat_toNat

@[simp] theorem asSeconds_toNat (n : UInt64) : asSeconds (.int n.toNat) = .ok n := by
  have hbound : (n.toNat : Int) < Nat.pow 2 64 := Int.ofNat_lt.mpr n.toNat_lt
  have hwhole : (Data.int n.toNat).whole 64 = .ok n.toNat := by
    rw [Data.whole, if_pos (by simpa using hbound), Int.toNat_natCast]
  rw [asSeconds, hwhole]
  exact congrArg Except.ok n.ofNat_toNat

@[simp] theorem level_name (level : Level) : Level.ofData .toml (.str level.name) = .ok level := by
  cases level <;> rfl

/-! ## Fields -/

section Fields

variable {α : Type} {read : Data → Except Mismatch α} {default : α} {key : String}
  {es : List (String × Data)}

@[simp] theorem accepts_eq_ok {d : Data} : accepts read d = .ok () ↔ ∃ a, read d = .ok a := by
  rw [accepts]
  cases read d with
  | ok a => exact ⟨fun _ => ⟨a, rfl⟩, fun _ => rfl⟩
  | error m =>
    constructor
    · intro h
      cases h
    · rintro ⟨a, h⟩
      cases h

@[simp] theorem valueOr_nil : valueOr [] key read default = default := rfl

@[simp] theorem valueOr_same {v : Data} {a : α} (hread : read v = .ok a) :
    valueOr ((key, v) :: es) key read default = a := by
  rw [valueOr, List.find?_cons_of_pos (by simp)]
  simp only [hread]

@[simp] theorem valueOr_other {k : String} (v : Data) (h : k ≠ key) :
    valueOr ((k, v) :: es) key read default = valueOr es key read default := by
  rw [valueOr, List.find?_cons_of_neg (by simpa using h), valueOr]

end Fields

/-! ## The sections read back -/

@[simp] theorem Server.ofData_written (s : Server) :
    Server.ofData .toml (.map (dataOf s.written)) = .ok s := by
  obtain ⟨address, port, cert, keyPath, wwwRoot, level⟩ := s
  cases wwwRoot with
  | none =>
    rw [Server.ofData, RecordRule.entries_of_fit]
    · simp [Server.written, bind, Except.bind, pure, Except.pure]
    · simp [Server.written, Server.rule, Settings.optional]
    · simp [Server.rule, Settings.optional]
  | some root =>
    rw [Server.ofData, RecordRule.entries_of_fit]
    · simp [Server.written, bind, Except.bind, pure, Except.pure]
    · simp [Server.written, Server.rule, Settings.optional]
    · simp [Server.rule, Settings.optional]

@[simp] theorem Timeouts.ofData_written (t : Timeouts) :
    Timeouts.ofData .toml (.map (dataOf t.written)) = .ok t := by
  rw [Timeouts.ofData, RecordRule.entries_of_fit]
  · simp [Timeouts.written, bind, Except.bind, pure, Except.pure]
  · simp [Timeouts.written, Timeouts.rule, Settings.optional]
  · simp [Timeouts.rule, Settings.optional]

@[simp] theorem Discovery.ofData_written (d : Discovery) :
    Discovery.ofData .toml (.map (dataOf d.written)) = .ok d := by
  rw [Discovery.ofData, RecordRule.entries_of_fit]
  · simp [Discovery.written, bind, Except.bind, pure, Except.pure]
  · simp [Discovery.written, Discovery.rule, Settings.optional]
  · simp [Discovery.rule, Settings.optional]

theorem account_ofData_written (a : Account) :
    Account.ofData .toml (.map (dataOf (accountWritten a))) = .ok a := by
  rw [Account.ofData, RecordRule.entries_of_fit]
  · simp [accountWritten, bind, Except.bind, pure, Except.pure]
  · simp [accountWritten, Account.rule]
  · simp [accountWritten, Account.rule]

@[simp] theorem accounts_ofData_written (accounts : List Account) :
    Account.listOfData .toml (.seq (accounts.map fun a => .map (dataOf (accountWritten a)))) =
      .ok accounts := by
  show (accounts.map fun a => Data.map (dataOf (accountWritten a))).mapM (Account.ofData .toml) = _
  induction accounts with
  | nil => rfl
  | cons a accounts ih =>
    rw [List.map_cons, List.mapM_cons, account_ofData_written, ih]
    rfl

/-! ## The whole document read back -/

/-- The sections as a schema sees them. -/
def sectionData (s : Settings) : List (String × Data) :=
  [("server", .map (dataOf s.server.written)), ("timeouts", .map (dataOf s.timeouts.written)),
    ("discovery", .map (dataOf s.discovery.written))]

/-- The accounts as a schema sees them. -/
def accountsData (accounts : List Account) : String × Data :=
  ("users", .seq (accounts.map fun a => .map (dataOf (accountWritten a))))

theorem data_of_accounts {accounts : List Account} (h : accounts ≠ []) :
    dataOfEntries (finishNodes (rowsNode "users"
      (accounts.map fun a => (accountWritten a).map Entry.node).reverse)) =
      [accountsData accounts] := by
  have htables := data_of_rowsNode "users" (by simpa using h : accounts.map accountWritten ≠ [])
  rw [List.map_map, List.map_map] at htables
  exact htables

theorem data_of_document (s : Settings) :
    (Value.table (finishNodes s.documentNodes)).data =
      .map (if s.users = [] then accountsData s.users :: s.sectionData
        else s.sectionData ++ [accountsData s.users]) := by
  have hsections : ∀ nodes : Nodes, dataOfEntries (finishNodes (s.sectionNodes ++ nodes)) =
      s.sectionData ++ dataOfEntries (finishNodes nodes) := by
    intro nodes
    show (_, Data.map (dataOfEntries _)) :: (_, Data.map (dataOfEntries _)) ::
      (_, Data.map (dataOfEntries _)) :: _ = _
    rw [data_of_entries, data_of_entries, data_of_entries]
    rfl
  rw [documentNodes]
  cases hlist : s.users with
  | nil => exact congrArg (fun es => Data.map (("users", Data.seq []) :: es)) (hsections [])
  | cons a accounts =>
    have haccounts := data_of_accounts (List.cons_ne_nil a accounts)
    exact congrArg Data.map ((hsections _).trans (congrArg (s.sectionData ++ ·) haccounts))

/-- A written document is read as the settings it was written from. -/
theorem ofDocument_document {s : Settings} {text : String} (h : s.document? = some text) :
    ofDocument text = .ok s := by
  have hdata : ofData .toml (Value.table (finishNodes s.documentNodes)).data = .ok s := by
    rw [data_of_document, Settings.ofData, RecordRule.entries_of_fit]
    · split
      · simp [sectionData, accountsData, bind, Except.bind, pure, Except.pure]
      · simp [sectionData, accountsData, bind, Except.bind, pure, Except.pure]
    · split
      · simp [rule, Settings.optional, sectionData, accountsData]
      · simp [rule, Settings.optional, sectionData, accountsData]
    · simp [rule, Settings.optional]
  rw [ofDocument, parse_document h]
  simp only [hdata]

end DeviceGateway.Settings
