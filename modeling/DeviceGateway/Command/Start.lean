import DeviceGateway.Command.Help
import DeviceGateway.Command.Report
import DeviceGateway.Log.Filter

/-
  A start of the gateway from its command line, and the run up to the interrupt that ends it:
  arguments, settings, bind address, TLS material, the listener, and the discovery responder,
  without which the gateway starts all the same.
-/

namespace DeviceGateway.Command

/-- What a start finds: files, the sockets of the host, and the environment. -/
structure Surroundings where
  files : Files.Tree := {}
  host : Net.Host := {}
  environment : Environment := []

/-- What a run shows: its exit status, what it writes, and the log messages let through. -/
structure Outcome where
  status : Nat
  output : String := ""
  errors : String := ""
  messages : List Log.Message := []
  deriving DecidableEq, Repr

/-- The settings of a start. -/
def settings (files : Files.Tree) (a : Arguments) : Except Failure Settings :=
  match Settings.load files a.config with
  | .ok s => .ok (a.override s)
  | .error f => .error (.settings a.config f)

/-- The variable that sets the log filter. -/
def filterVariable : String := "RUST_LOG"

/-- The log filter, with a line about each directive that is wrong: that of the environment, if
it is right, or else that of the settings. -/
def logFilter (env : Environment) (s : Settings) : Log.Filter × List String :=
  match (env.lookup filterVariable).bind Log.Filter.parse? with
  | some f => (f, [])
  | none => Log.Filter.lenient s.server.logLevel

/-- A gateway that has started. -/
structure Running where
  settings : Settings
  identity : Tls.Identity
  /-- The host with the sockets of the gateway. -/
  host : Net.Host
  address : Net.Address
  filter : Log.Filter
  /-- What was complained about on the way. -/
  complaints : String
  /-- Why discovery is not possible, when it is wanted and is not. -/
  discoveryProblem : Option String

/-- What settings lead to: the identity, and the host with the listener at its address. -/
def listen (place : Surroundings) (s : Settings) :
    Except Failure (Tls.Identity × Net.Host × Net.Address) :=
  match s.bindAddress? with
  | none => .error (.address s.server.bindAddress)
  | some address =>
    match Tls.load place.files s.server.certPath s.server.keyPath with
    | .error f => .error (.material f)
    | .ok identity =>
      match Service.bind .listener place.host address with
      | .error f => .error (.socket f)
      | .ok (host, address) => .ok (identity, host, address)

/-- The host with the discovery socket, if discovery is wanted, or why there is none. -/
def discover (host : Net.Host) (s : Settings) : Net.Host × Option String :=
  if s.discovery.enabled then
    match s.discoveryAddress? with
    | none => (host, some "invalid address: invalid socket address syntax")
    | some address =>
      match Service.bind .discovery host address with
      | .ok (host, _) => (host, none)
      | .error f => (host, some f.message)
  else (host, none)

/-- Starts with settings. -/
def startWith (place : Surroundings) (s : Settings) : Except Outcome Running :=
  let (filter, lines) := logFilter place.environment s
  let complaints := String.join (lines.map (· ++ "\n"))
  match listen place s with
  | .error f => .error { status := 1, errors := complaints ++ f.report }
  | .ok (identity, host, address) =>
    let (host, discoveryProblem) := discover host s
    .ok { settings := s, identity, host, address, filter, complaints, discoveryProblem }

/-- Starts from a command line. -/
def start (place : Surroundings) (line : List String) : Except Outcome Running :=
  let env := place.environment
  match Arguments.read env line with
  | .error .help => .error { status := 0, output := written env (help env) }
  | .error .version => .error { status := 0, output := version }
  | .error (.misuse m) => .error { status := 2, errors := written env (m.message ++ "\n") }
  | .ok a =>
    match settings place.files a with
    | .error f => .error { status := 1, errors := f.report }
    | .ok s => startWith place s

namespace Running

/-- The target of the program's own messages. -/
def logTarget : String := "homegw"

/-- The messages that the filter lets through. -/
def admitted (r : Running) (ms : List Log.Message) : List Log.Message :=
  ms.filter (r.filter.admits logTarget)

/-- What is logged at the start. -/
def opening (r : Running) : List Log.Message :=
  r.admitted (r.discoveryProblem.toList.map (⟨.error, "discovery disabled: " ++ ·⟩) ++
    [⟨.info, "homegw started"⟩])

/-- What is logged from the interrupt on. -/
def ending (r : Running) : List Log.Message :=
  r.admitted [⟨.info, "received Ctrl+C, shutting down"⟩, ⟨.info, "homegw stopped"⟩]

/-- The whole run, which an interrupt ends. -/
def outcome (r : Running) : Outcome :=
  { status := 0, errors := r.complaints, messages := r.opening ++ r.ending }

end Running

/-- A run from a command line; an interrupt ends it if nothing else does. -/
def run (place : Surroundings) (line : List String) : Outcome :=
  match start place line with
  | .error o => o
  | .ok r => r.outcome

end DeviceGateway.Command
