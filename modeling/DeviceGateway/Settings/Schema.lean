import DeviceGateway.Settings.Basic

/-
  Settings read from a value. A record is a map of its fields or a list of them in order; a field
  that is left out has its default, and keys that are not asked for are passed over.
-/

namespace DeviceGateway.Settings

open Schema

/-- A path. -/
def asPath : Data → Except Mismatch String := Data.text "path string"

/-- A text. -/
def asText : Data → Except Mismatch String := Data.text "a string"

/-- A port. -/
def asPort (d : Data) : Except Mismatch UInt16 := (d.whole 16).map UInt16.ofNat

/-- A count of seconds. -/
def asSeconds (d : Data) : Except Mismatch UInt64 := (d.whole 64).map UInt64.ofNat

/-- A path that may be missing; null misses it. -/
def asOptionalPath : Data → Except Mismatch (Option String)
  | .null => .ok none
  | d => (asPath d).map some

/-- A field that may be left out. -/
def optional {α : Type} (name : String) (read : Data → Except Mismatch α) : FieldRule :=
  { name, check := accepts read }

namespace Server

/-- The record of the listener. -/
def rule : RecordRule :=
  { words := "struct ServerSettings"
    fields := [optional "bind_address" asText, optional "port" asPort, optional "cert_path" asPath,
      optional "key_path" asPath, optional "www_root" asOptionalPath, optional "log_level" asText] }

/-- The listener's settings. -/
def ofData (format : Format) (d : Data) : Except Mismatch Server := do
  let es ← rule.entries format d
  return {
    bindAddress := valueOr es "bind_address" asText Default.bindAddress
    port := valueOr es "port" asPort Default.port
    certPath := valueOr es "cert_path" asPath Default.certPath
    keyPath := valueOr es "key_path" asPath Default.keyPath
    wwwRoot := valueOr es "www_root" asOptionalPath none
    logLevel := valueOr es "log_level" asText Default.logLevel }

end Server

namespace Timeouts

/-- The record of the deadlines. -/
def rule : RecordRule :=
  { words := "struct TimeoutSettings"
    fields := [optional "http_idle_secs" asSeconds, optional "shutdown_stage_secs" asSeconds,
      optional "channel_write_secs" asSeconds, optional "token_ttl_secs" asSeconds] }

/-- The deadlines. -/
def ofData (format : Format) (d : Data) : Except Mismatch Timeouts := do
  let es ← rule.entries format d
  return {
    httpIdle := valueOr es "http_idle_secs" asSeconds Default.httpIdle
    shutdownStage := valueOr es "shutdown_stage_secs" asSeconds Default.shutdownStage
    channelWrite := valueOr es "channel_write_secs" asSeconds Default.channelWrite
    tokenTtl := valueOr es "token_ttl_secs" asSeconds Default.tokenTtl }

end Timeouts

namespace Discovery

/-- The record of the discovery responder. -/
def rule : RecordRule :=
  { words := "struct DiscoverySettings"
    fields := [optional "enabled" Data.truth, optional "port" asPort, optional "node_name" asText,
      optional "external_host" asText, optional "external_port" asPort] }

/-- The discovery responder's settings. -/
def ofData (format : Format) (d : Data) : Except Mismatch Discovery := do
  let es ← rule.entries format d
  return {
    enabled := valueOr es "enabled" Data.truth Default.isDiscovered
    port := valueOr es "port" asPort Default.discoveryPort
    nodeName := valueOr es "node_name" asText Default.nodeName
    externalHost := valueOr es "external_host" asText Default.externalHost
    externalPort := valueOr es "external_port" asPort Default.port }

end Discovery

/-- The record of all settings. -/
def rule (format : Format) : RecordRule :=
  { words := "struct GatewayConfig"
    fields := [optional "server" (Server.ofData format),
      optional "timeouts" (Timeouts.ofData format),
      optional "discovery" (Discovery.ofData format),
      optional "users" (Account.listOfData format)] }

/-- All settings. -/
def ofData (format : Format) (d : Data) : Except Mismatch Settings := do
  let es ← (rule format).entries format d
  return {
    server := valueOr es "server" (Server.ofData format) {}
    timeouts := valueOr es "timeouts" (Timeouts.ofData format) {}
    discovery := valueOr es "discovery" (Discovery.ofData format) {}
    users := valueOr es "users" (Account.listOfData format) Default.users }

/-- The settings that a JSON value is. -/
def ofJson (j : Json) : Except Mismatch Settings := ofData .json (Data.ofJson j)

end DeviceGateway.Settings
