import DeviceGateway.Access.Accounts
import DeviceGateway.Net.Address

/-
  The settings of a gateway and their defaults. A setting has one default, which counts both where
  its whole section is left out and where the section is there without it.
-/

namespace DeviceGateway.Settings

namespace Default

def bindAddress : String := "0.0.0.0"

def port : UInt16 := 8443

def certPath : String := "cert.pem"

def keyPath : String := "key.pem"

def logLevel : String := "info"

def httpIdle : UInt64 := 12

def shutdownStage : UInt64 := 6

def channelWrite : UInt64 := 12

def tokenTtl : UInt64 := 60 * 60

def isDiscovered : Bool := true

def discoveryPort : UInt16 := 20801

def nodeName : String := "homegw"

def externalHost : String := "127.0.0.1"

/-- Without a list of accounts there is one that may do everything. -/
def users : List Account := [{ name := "admin", password := "admin", level := .admin }]

end Default

/-- Where the gateway listens, and its TLS material. -/
structure Server where
  bindAddress : String := Default.bindAddress
  port : UInt16 := Default.port
  certPath : String := Default.certPath
  keyPath : String := Default.keyPath
  /-- The root of static files, when any are served. -/
  wwwRoot : Option String := none
  logLevel : String := Default.logLevel
  deriving DecidableEq, Repr

/-- Deadlines in seconds. -/
structure Timeouts where
  /-- For one HTTP request, and for the TLS handshake. -/
  httpIdle : UInt64 := Default.httpIdle
  /-- For each stage of a channel's shutdown. -/
  shutdownStage : UInt64 := Default.shutdownStage
  /-- For one write on a channel. -/
  channelWrite : UInt64 := Default.channelWrite
  /-- The life of a bearer token. -/
  tokenTtl : UInt64 := Default.tokenTtl
  deriving DecidableEq, Repr

/-- The discovery responder. -/
structure Discovery where
  enabled : Bool := Default.isDiscovered
  port : UInt16 := Default.discoveryPort
  nodeName : String := Default.nodeName
  externalHost : String := Default.externalHost
  externalPort : UInt16 := Default.port
  deriving DecidableEq, Repr

end Settings

/-- All settings of a gateway. -/
structure Settings where
  server : Settings.Server := {}
  timeouts : Settings.Timeouts := {}
  discovery : Settings.Discovery := {}
  users : List Account := Settings.Default.users
  deriving DecidableEq, Repr

namespace Settings

/-- The address that a host text and a port make. -/
def addressOf? (host : String) (port : UInt16) : Option Net.Address :=
  Net.Address.parse? (host ++ ":" ++ toString port.toNat)

/-- Where the listener binds. -/
def bindAddress? (s : Settings) : Option Net.Address :=
  addressOf? s.server.bindAddress s.server.port

/-- Where the discovery responder binds. -/
def discoveryAddress? (s : Settings) : Option Net.Address :=
  addressOf? s.server.bindAddress s.discovery.port

/-- The endpoint that discovery replies name. -/
def Discovery.endpoint (d : Discovery) : String :=
  d.externalHost ++ ":" ++ toString d.externalPort.toNat

/-- The deadlines of sessions in milliseconds. -/
structure Deadlines where
  httpIdle : Nat := 12000
  shutdownStage : Nat := 6000
  channelWrite : Nat := 12000
  deriving DecidableEq, Repr

/-- The deadlines of sessions. -/
def Timeouts.deadlines (t : Timeouts) : Deadlines :=
  { httpIdle := t.httpIdle.toNat * 1000
    shutdownStage := t.shutdownStage.toNat * 1000
    channelWrite := t.channelWrite.toNat * 1000 }

end Settings

end DeviceGateway
