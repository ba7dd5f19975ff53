import DeviceGateway.Command.Start
import DeviceGateway.Gateway.Network
import DeviceGateway.Hash.Sha256

/-
  The program: a start from the command line, then one client, which is at the other end of
  standard input and output. The end of standard input takes the place of the interrupt.
-/

namespace DeviceGateway.Main

/-- The file at a path as a tree that holds nothing else. -/
def readFile (path : String) : IO (List (List String × Files.Entry)) := do
  let parts := Settings.pathParts path
  try
    return [(parts, .file (← IO.FS.readBinFile path).toList)]
  catch e =>
    match e with
    | .noFileOrDirectory .. => return []
    | _ => return [(parts, .directory)]

/-- The files that a start may read. -/
def readFiles (env : Command.Environment) (line : List String) : IO Files.Tree := do
  match Command.Arguments.read env line with
  | .error _ => return {}
  | .ok a =>
    let files : Files.Tree := ⟨← readFile a.config⟩
    match Command.settings files a with
    | .error _ => return files
    | .ok s =>
      return ⟨files.entries ++ (← readFile s.server.certPath) ++ (← readFile s.server.keyPath)⟩

/-- The entries below a directory. -/
partial def readTree (parts : List String) (place : IO.FS.DirEntry) :
    IO (List (List String × Files.Entry)) := do
  if ← place.path.isDir then
    let mut found := [(parts, Files.Entry.directory)]
    for e in ← place.path.readDir do
      found := found ++ (← readTree (parts ++ [e.fileName]) e)
    return found
  else return [(parts, .file (← IO.FS.readBinFile place.path).toList)]

/-- The gateway of settings, with the files below its root. -/
def gateway (s : Settings) : IO Gateway := do
  let files ← match s.server.wwwRoot with
    | none => pure []
    | some root =>
      try readTree [] { root := ".", fileName := root } catch _ => pure []
  let seed := (← IO.getRandomBytes 16).toList
  let text (n : Nat) : String := tokenText ((Hash.sha256 (seed ++ bigEndian 8 n)).take 16)
  let g := Gateway.ofSettings s ⟨files⟩ text
  return { g with wwwRoot := g.wwwRoot.map fun _ => "" }

/-- The name of the one client. -/
def client : String := "client"

/-- Writes what the gateway has written; `true` when it has closed the connection. -/
def reply (output : IO.FS.Stream) (n : Network) : IO (Network × Bool) := do
  match n.get? client with
  | none => return (n, true)
  | some l =>
    let (pipe, octets) := l.pipe.take
    output.write ⟨octets.toArray⟩
    output.flush
    return (n.onPipe client fun _ => pipe, pipe.closed)

/-- Serves the client until it ends or is sent away; times count from `start`. -/
partial def serve (input output : IO.FS.Stream) (start : Nat) (n : Network) : IO Unit := do
  let octets := (← input.read 4096).toList
  let n := n.pass ((← IO.monoMsNow) - start - n.now)
  let n := n.onPipe client fun p =>
    if octets.isEmpty then { p with ended := true } else p.send octets
  let (n, closed) ← reply output n.settle
  if closed || octets.isEmpty then return
  serve input output start n

/-- Writes log messages. -/
def log (ms : List Log.Message) : IO Unit := do
  for m in ms do
    IO.eprintln m.line

/-- Runs the program and gives its exit status. -/
def run (line : List String) : IO UInt32 := do
  let names := [Command.filterVariable, Command.Style.offVariable, Command.Style.onVariable] ++
    Command.Flag.all.map (·.envName)
  let environment ← names.filterMapM fun name => do return (← IO.getEnv name).map (name, ·)
  let files ← readFiles environment line
  match Command.start { files, environment } line with
  | .error o =>
    IO.print o.output
    IO.eprint o.errors
    return UInt32.ofNat o.status
  | .ok r =>
    IO.eprint r.complaints
    log r.opening
    let network : Network := { gateway := ← gateway r.settings }
    serve (← IO.getStdin) (← IO.getStdout) (← IO.monoMsNow) (network.connect client {})
    log r.ending
    return 0

end DeviceGateway.Main

/-- Runs the program. -/
def main (line : List String) : IO UInt32 := DeviceGateway.Main.run line
