import DeviceGateway.Settings.Schema
import DeviceGateway.Toml.Quoted
import DeviceGateway.Toml.Reader

/-
  Settings as a TOML document: one table a section, then one table an account. Second counts
  beyond what the format can write are refused.
-/

namespace DeviceGateway.Settings

/-- A line that gives a key its value. -/
def line (key value : String) : String := key ++ " = " ++ value ++ "\n"

/-- A line that gives a key a text. -/
def textLine (key value : String) : String := line key (Toml.quoted value)

/-- A line that gives a key a whole number. -/
def numberLine (key : String) (n : Nat) : String := line key (toString n)

/-- The listener's table. -/
def Server.document (s : Server) : String :=
  "[server]\n" ++ textLine "bind_address" s.bindAddress ++ numberLine "port" s.port.toNat ++
    textLine "cert_path" s.certPath ++ textLine "key_path" s.keyPath ++
    (match s.wwwRoot with
      | some root => textLine "www_root" root
      | none => "") ++
    textLine "log_level" s.logLevel

/-- The table of the deadlines. -/
def Timeouts.document (t : Timeouts) : String :=
  "[timeouts]\n" ++ numberLine "http_idle_secs" t.httpIdle.toNat ++
    numberLine "shutdown_stage_secs" t.shutdownStage.toNat ++
    numberLine "channel_write_secs" t.channelWrite.toNat ++
    numberLine "token_ttl_secs" t.tokenTtl.toNat

/-- The discovery responder's table. -/
def Discovery.document (d : Discovery) : String :=
  "[discovery]\n" ++ line "enabled" (if d.enabled then "true" else "false") ++
    numberLine "port" d.port.toNat ++ textLine "node_name" d.nodeName ++
    textLine "external_host" d.externalHost ++ numberLine "external_port" d.externalPort.toNat

/-- The table of one account. -/
def accountDocument (a : Account) : String :=
  "\n[[users]]\n" ++ textLine "name" a.name ++ textLine "password" a.password ++
    textLine "level" a.level.name

/-- Can the format write all second counts? -/
def Timeouts.isWritable (t : Timeouts) : Bool :=
  [t.httpIdle, t.shutdownStage, t.channelWrite, t.tokenTtl].all (·.toNat < 0x8000000000000000)

/-- The document, when all second counts can be written. -/
def document? (s : Settings) : Option String :=
  if s.timeouts.isWritable then
    some ((if s.users.isEmpty then "users = []\n\n" else "") ++ s.server.document ++ "\n" ++
      s.timeouts.document ++ "\n" ++ s.discovery.document ++
      String.join (s.users.map accountDocument))
  else none

/-- Why a document gives no settings. -/
inductive DocumentError
  /-- It is not TOML. -/
  | grammar
  /-- It is TOML, but not settings. -/
  | mismatch (m : Schema.Mismatch)
  deriving DecidableEq, Repr

/-- The settings that a document gives. -/
def ofDocument (text : String) : Except DocumentError Settings :=
  match Toml.parse? text with
  | none => .error .grammar
  | some entries =>
    match ofData .toml (Toml.Value.table entries).data with
    | .ok s => .ok s
    | .error m => .error (.mismatch m)

end DeviceGateway.Settings
