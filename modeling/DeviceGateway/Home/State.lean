import DeviceGateway.Channel.Command
import DeviceGateway.Channel.Sessions

/-
  The home: devices by name, each with a JSON value as its state. Everybody may read; a change
  takes the control level, and every change is announced to all open sessions.
-/

namespace DeviceGateway

open Channel

/-- The devices, names in ascending order, and the sessions that hear of changes. -/
structure Home where
  devices : Fields := []
  sessions : Sessions := {}
  deriving Repr, Inhabited

namespace Home

/-- The name of the event that announces a change. -/
def deviceChanged : String := "devicechanged"

/-- All devices as one object. -/
def snapshot (h : Home) : Json := .obj h.devices

/-- The state of a device. -/
def get? (h : Home) (name : String) : Option Json := Fields.get? name h.devices

/-- The event that announces a device's state. -/
def change (name : String) (state : Json) : Push :=
  { name := deviceChanged
    payload := Fields.insert "state" state (Fields.insert "name" (.str name) []) }

/-- Gives an existing device a new state and announces it. -/
def set (h : Home) (who : Principal) (name : String) (state : Json) : Except CommandError Home :=
  if !who.allows .control then .error .forbidden
  else if (h.get? name).isNone then .error (.notFound name)
  else .ok {
    devices := Fields.insert name state h.devices
    sessions := (h.sessions.broadcast (change name state)).1 }

/-- The command that shows all devices. -/
def getDevices : Handler Home := fun _ h =>
  { world := h, edits := [.insert "devices" h.snapshot] }

/-- The command that changes a device. -/
def setDevice : Handler Home := fun call h =>
  match call.request.text? "name", call.request.param? "state" with
  | some name, some state =>
    match h.set call.owner name state with
    | .ok h' => { world := h', edits := [.insert "name" (.str name), .insert "state" state] }
    | .error e => { world := h, failure := some e }
  | _, _ => { world := h, failure := some .invalidArguments }

/-- All commands of the gateway. -/
def commands : CommandTable Home :=
  (CommandTable.core.register "getdevices" getDevices).register "setdevice" setDevice

end Home

end DeviceGateway
