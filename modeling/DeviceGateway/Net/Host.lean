import DeviceGateway.Net.Address

/-
  The sockets of a host. An address is taken once; an unspecified one takes its port on every
  address of its family, and the one of IPv6 on those of IPv4 too.
-/

namespace DeviceGateway.Net

/-- Does a socket on `a` receive what is sent to `b`? -/
def Ip.covers (a b : Ip) : Bool :=
  match a, b with
  | .v4 0 0 0 0, .v4 .. => true
  | .v6 [0, 0, 0, 0, 0, 0, 0, 0] _, _ => true
  | _, _ => a = b

/-- Can a socket on a host without a network have the address? -/
def Ip.isLocal : Ip → Bool
  | .v4 0 0 0 0 => true
  | .v4 a _ _ _ => a = 127
  | .v6 gs _ => gs = List.replicate 8 0 || gs = List.replicate 7 0 ++ [1]

/-- Are two addresses in each other's way? -/
def Address.clashes (a b : Address) : Bool :=
  a.port = b.port && (a.ip.covers b.ip || b.ip.covers a.ip)

/-- Why a socket does not get its address. -/
inductive BindError
  | inUse
  | notAvailable
  deriving DecidableEq, Repr

/-- What the system says of an error. -/
def BindError.message : BindError → String
  | .inUse => "Address already in use (os error 98)"
  | .notAvailable => "Cannot assign requested address (os error 99)"

/-- The first of the ports that are handed out. -/
def firstFreePort : Nat := 49152

/-- A port that nobody has: among more ports than there are sockets, one is free. -/
def freePort (taken : List Address) : Nat :=
  ((List.range (taken.length + 1)).find? fun i => taken.all (·.port ≠ firstFreePort + i)).elim
    firstFreePort (firstFreePort + ·)

/-- The address that a socket gets; port 0 asks for any that is free. -/
def claim (taken : List Address) (a : Address) : Except BindError Address :=
  if !a.ip.isLocal then .error .notAvailable
  else if a.port = 0 then .ok { a with port := freePort taken }
  else if taken.any a.clashes then .error .inUse
  else .ok a

/-- A host: the addresses that its stream and datagram sockets have, and whether clients get
through to it. -/
structure Host where
  streams : List Address := []
  datagrams : List Address := []
  isReachable : Bool := true
  deriving DecidableEq, Repr

/-- The host with one more listening stream socket. -/
def Host.listen (h : Host) (a : Address) : Except BindError (Host × Address) :=
  match claim h.streams a with
  | .ok a => .ok ({ h with streams := a :: h.streams }, a)
  | .error e => .error e

/-- The host with one more datagram socket. -/
def Host.openDatagram (h : Host) (a : Address) : Except BindError (Host × Address) :=
  match claim h.datagrams a with
  | .ok a => .ok ({ h with datagrams := a :: h.datagrams }, a)
  | .error e => .error e

/-- Does a client's connection to an address come about? -/
def Host.connects (h : Host) (a : Address) : Bool := h.isReachable && h.streams.contains a

end DeviceGateway.Net
