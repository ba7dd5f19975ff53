import DeviceGateway.Access.Credentials
import DeviceGateway.Files.Assets
import DeviceGateway.Home.Resources
import DeviceGateway.Settings.Basic
import DeviceGateway.Signal

/-
  What all connections of a gateway share.
-/

namespace DeviceGateway

/-- A gateway. -/
structure Gateway where
  deadlines : Settings.Deadlines := {}
  credentials : Credentials := {}
  /-- Are tokens issued at all? -/
  issuesTokens : Bool := true
  resources : Resources := .home
  /-- What channels answer to. -/
  commands : Channel.CommandTable Home := Home.commands
  files : Files.Tree := {}
  wwwRoot : Option String := none
  home : Home := {}
  signal : Signal := {}
  /-- The texts of tokens to come; no two of them are the same. -/
  tokenText : Nat → String
  /-- How many tokens were made so far. -/
  made : Nat := 0

namespace Gateway

/-- The devices of a new gateway. -/
def builtIn : Fields := [("lamp", .bool false), ("thermostat", .int 20)]

/-- A gateway with the built-in devices. -/
def ofSettings (s : Settings) (files : Files.Tree) (tokenText : Nat → String) : Gateway :=
  { deadlines := s.timeouts.deadlines
    credentials := { accounts := s.users, life := s.timeouts.tokenTtl.toNat * 1000 }
    files, wwwRoot := s.server.wwwRoot, home := { devices := builtIn }, tokenText }

/-- The sessions of the gateway. -/
def sessions (g : Gateway) : Channel.Sessions := g.home.sessions

/-- The gateway with its sessions changed. -/
def onSessions (g : Gateway) (f : Channel.Sessions → Channel.Sessions) : Gateway :=
  { g with home := { g.home with sessions := f g.home.sessions } }

/-- The text that explains the gateway while so many channels are open. -/
def helpText (g : Gateway) (channels : Nat) : String :=
  "HomeGW gateway\n\nRoutes:\n" ++
  "  GET  /ping        liveness check\n" ++
  "  GET  /help        this text\n" ++
  "  GET  /auth        exchange Basic/Bearer credentials for a token\n" ++
  "  GET  /ws          upgrade to the JSON channel (authenticated)\n" ++
  "  *    /res/...     domain resources (authenticated)\n\n" ++
  "Channel commands:\n" ++
  String.join (g.commands.names.map fun name => "  " ++ name ++ "\n") ++
  "\nOpen channels: " ++ toString channels ++ "\n"

/-- Explains the gateway; the open channels are counted for it. -/
def help (g : Gateway) : Gateway × String :=
  let (sessions, channels) := g.sessions.count
  (g.onSessions fun _ => sessions, g.helpText channels)

end Gateway

end DeviceGateway
