import DeviceGateway.Gateway.Network
import DeviceGateway.Service.Socket
import DeviceGateway.Tls.Material

/-
  The listener of a gateway. Every client that comes in is greeted on its own, so that one who
  stalls holds up nobody else; the listener stops when the shutdown signal fires, and the
  connections that are there live on.
-/

namespace DeviceGateway.Service

/-- The rest after a failed accept, in milliseconds. -/
def acceptRest : Nat := 100

/-- A listener at its address, with the connections of its gateway. -/
structure Listener where
  address : Net.Address
  network : Network
  isRunning : Bool := true

namespace Listener

/-- Opens a listener for a gateway. -/
def bind (host : Net.Host) (address : Net.Address) (gateway : Gateway) :
    Except BindFault (Net.Host × Listener) :=
  match Service.bind .listener host address with
  | .ok (host, address) => .ok (host, { address, network := { gateway } })
  | .error f => .error f

/-- A client comes in with an offer of protocols; once the greeting is over it is served. -/
def accept (l : Listener) (name : String) (offered : List String) : Listener × Tls.Agreement :=
  match Tls.agree offered with
  | .agreed p => ({ l with network := l.network.connect name {} }, .agreed p)
  | .refused => (l, .refused)

/-- The shutdown signal fires, and the listener stops. -/
def trigger (l : Listener) : Listener :=
  { l with network := l.network.trigger.settle, isRunning := false }

end Listener

end DeviceGateway.Service
