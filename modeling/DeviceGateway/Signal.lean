/-
  The shutdown signal: fired at most once, by whoever holds the trigger, and never taken back.
-/

namespace DeviceGateway

/-- A signal: whether its trigger still exists, and whether it has fired. -/
structure Signal where
  hasTrigger : Bool := true
  fired : Bool := false
  deriving DecidableEq, Repr

namespace Signal

/-- A signal that nobody can fire. -/
def never : Signal := { hasTrigger := false }

/-- Fires the signal, if its trigger exists. -/
def trigger (s : Signal) : Signal := { s with fired := s.fired || s.hasTrigger }

/-- Drops the trigger; what has fired stays fired. -/
def dropTrigger (s : Signal) : Signal := { s with hasTrigger := false }

end Signal

end DeviceGateway
