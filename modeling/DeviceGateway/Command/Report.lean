import DeviceGateway.Service.Socket
import DeviceGateway.Settings.File
import DeviceGateway.Text.Blank
import DeviceGateway.Tls.Material

/-
  Why a start fails, and the report about it: what was being done, then the causes, the nearest
  first.
-/

namespace DeviceGateway.Command

/-- Why a start fails. -/
inductive Failure
  | settings (path : String) (f : Settings.FileFault)
  | address (host : String)
  | material (f : Tls.Fault)
  | socket (f : Service.BindFault)
  deriving DecidableEq, Repr

/-- What is said of a document that gives no settings. -/
def documentMessage : Settings.DocumentError → String
  | .grammar => "TOML parse error"
  | .mismatch m => "TOML parse error\n" ++ m.message

/-- What was being done. -/
def Failure.context : Failure → String
  | .settings path _ => "failed to load configuration from " ++ path
  | .address host => "invalid bind address '" ++ host ++ "'"
  | .material _ => "failed to load TLS material"
  | .socket f => f.message

/-- The causes, the nearest first. -/
def Failure.causes : Failure → List String
  | .settings _ (.access path e) =>
    ["I/O error accessing config at " ++ path ++ ": " ++ e.message, e.message]
  | .settings _ (.document e) =>
    ["failed to parse config TOML: " ++ documentMessage e, documentMessage e]
  | .settings _ .unwritable => []
  | .address _ => ["invalid socket address syntax"]
  | .material (.rejected r) => [(Tls.Fault.rejected r).message, r.message]
  | .material f => [f.message]
  | .socket f => [f.error.message]

/-- The lines about causes: they are numbered when there is more than one. -/
def causeLines : List String → List String
  | [] => []
  | [c] => [Text.moveIn "    " "    " c]
  | cs => cs.zipIdx.map fun (c, i) => Text.moveIn ("    " ++ toString i ++ ": ") "       " c

/-- The report about a failure. -/
def Failure.report (f : Failure) : String :=
  "Error: " ++ f.context ++ "\n" ++
    (match causeLines f.causes with
      | [] => ""
      | ls => "\nCaused by:\n" ++ String.join (ls.map (· ++ "\n")))

end DeviceGateway.Command
