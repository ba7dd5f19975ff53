import DeviceGateway.Net.Host

/-
  The two sockets of a gateway: one that listens for its clients, one for discovery queries.
-/

namespace DeviceGateway.Service

/-- What a socket is for. -/
inductive Role
  | listener
  | discovery
  deriving DecidableEq, Repr

/-- The name of a role. -/
def Role.name : Role → String
  | .listener => "listener"
  | .discovery => "discovery socket"

/-- A socket that did not get its address. -/
structure BindFault where
  role : Role
  address : Net.Address
  error : Net.BindError
  deriving DecidableEq, Repr

/-- The wording of a fault. -/
def BindFault.message (f : BindFault) : String :=
  "failed to bind " ++ f.role.name ++ " on " ++ f.address.text ++ ": " ++ f.error.message

/-- Opens a socket for a role; the address it gets has a port even when none was asked for. -/
def bind (role : Role) (host : Net.Host) (address : Net.Address) :
    Except BindFault (Net.Host × Net.Address) :=
  let bound := match role with
    | .listener => host.listen address
    | .discovery => host.openDatagram address
  bound.mapError fun error => { role, address, error }

end DeviceGateway.Service
