/-
  Dates in replies: weekday, day, month, year and time of day, all of fixed width. A time is a
  number of seconds since the start of 1970.
-/

namespace DeviceGateway.Http

/-- Is the year a leap year? -/
def isLeap (year : Nat) : Bool := year % 4 == 0 && (year % 100 != 0 || year % 400 == 0)

/-- The lengths of a year's months. -/
def monthLengths (year : Nat) : List Nat :=
  [31, if isLeap year then 29 else 28, 31, 30, 31, 30, 31, 31, 30, 31, 30, 31]

/-- The month that a day of the year falls into, and the day of that month, both from zero. -/
def monthAndDay : (month day : Nat) → List Nat → Nat × Nat
  | month, day, [] => (month, day)
  | month, day, n :: ns => if day < n then (month, day) else monthAndDay (month + 1) (day - n) ns

/-- The days before a year, counted from the start of year one. -/
def daysBefore (year : Nat) : Nat :=
  let y := year - 1
  y * 365 + y / 4 - y / 100 + y / 400

/-- The year that a day falls into, from a year that is not too late. -/
def yearOf (fuel year day : Nat) : Nat :=
  match fuel with
  | 0 => year
  | n + 1 => if daysBefore (year + 1) ≤ day then yearOf n (year + 1) day else year

/-- A number with leading zeros. -/
def padded (width n : Nat) : String :=
  let digits := toString n
  String.ofList (List.replicate (width - digits.length) '0') ++ digits

/-- The date of a time. -/
def date (seconds : Nat) : String :=
  let day := seconds / 86400 + daysBefore 1970
  let year := yearOf (day / 365) (day / 366 + 1) day
  let (month, dayOfMonth) := monthAndDay 0 (day - daysBefore year) (monthLengths year)
  let weekdays := ["Mon", "Tue", "Wed", "Thu", "Fri", "Sat", "Sun"]
  let months := ["Jan", "Feb", "Mar", "Apr", "May", "Jun", "Jul", "Aug", "Sep", "Oct", "Nov", "Dec"]
  let clock := seconds % 86400
  weekdays.getD (day % 7) "" ++ ", " ++ padded 2 (dayOfMonth + 1) ++ " " ++
    months.getD month "" ++ " " ++ padded 4 year ++ " " ++ padded 2 (clock / 3600) ++ ":" ++
    padded 2 (clock / 60 % 60) ++ ":" ++ padded 2 (clock % 60) ++ " GMT"

end DeviceGateway.Http
