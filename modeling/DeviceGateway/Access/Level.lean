/-
  Access levels and the identity that a connection carries.
-/

namespace DeviceGateway

/-- How much a principal may do. -/
inductive Level
  | guest
  | control
  | admin
  deriving DecidableEq, Repr, Inhabited

namespace Level

/-- The levels in ascending order. -/
def all : List Level := [.guest, .control, .admin]

/-- A level's place in the order. -/
def rank : Level → Nat
  | guest => 0
  | control => 1
  | admin => 2

/-- A level's name. -/
def name : Level → String
  | guest => "guest"
  | control => "control"
  | admin => "admin"

/-- The level of a name. -/
def ofName? (s : String) : Option Level := all.find? (·.name = s)

end Level

/-- Who a request or a channel acts for. -/
structure Principal where
  name : String
  level : Level
  deriving DecidableEq, Repr, Inhabited

/-- Has the principal at least the required level? -/
def Principal.allows (p : Principal) (required : Level) : Bool := required.rank ≤ p.level.rank

end DeviceGateway
