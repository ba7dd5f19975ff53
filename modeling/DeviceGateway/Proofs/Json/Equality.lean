import DeviceGateway.Json.Basic

/-
  Equality of values is decided (`Json.same_iff`), so a text that was read can be compared with what
  it should say.
-/

namespace DeviceGateway.Json

mutual

/-- Are two values the same? -/
def same : Json → Json → Bool
  | .null, .null => true
  | .bool a, .bool b => a = b
  | .int a, .int b => a = b
  | .float a, .float b => a = b
  | .str a, .str b => a = b
  | .arr a, .arr b => sameItems a b
  | .obj a, .obj b => sameFields a b
  | _, _ => false

/-- Are the items of two arrays the same? -/
def sameItems : List Json → List Json → Bool
  | [], [] => true
  | x :: xs, y :: ys => same x y && sameItems xs ys
  | _, _ => false

/-- Are the fields of two objects the same? -/
def sameFields : List (String × Json) → List (String × Json) → Bool
  | [], [] => true
  | (k, x) :: xs, (l, y) :: ys => decide (k = l) && same x y && sameFields xs ys
  | _, _ => false

end

mutual

theorem same_iff (a b : Json) : same a b = true ↔ a = b := by
  cases a with
  | arr xs => cases b with
    | arr ys => simp [same, sameItems_iff xs ys]
    | _ => simp [same]
  | obj xs => cases b with
    | obj ys => simp [same, sameFields_iff xs ys]
    | _ => simp [same]
  | _ => cases b <;> simp [same]

theorem sameItems_iff (xs ys : List Json) : sameItems xs ys = true ↔ xs = ys := by
  cases xs with
  | nil => cases ys <;> simp [sameItems]
  | cons x xs => cases ys with
    | nil => simp [sameItems]
    | cons y ys => simp [sameItems, same_iff x y, sameItems_iff xs ys]

theorem sameFields_iff (xs ys : List (String × Json)) : sameFields xs ys = true ↔ xs = ys := by
  cases xs with
  | nil => cases ys <;> simp [sameFields]
  | cons x xs =>
    obtain ⟨k, v⟩ := x
    cases ys with
    | nil => simp [sameFields]
    | cons y ys =>
      obtain ⟨l, u⟩ := y
      simp [sameFields, same_iff v u, sameFields_iff xs ys]

end

instance : DecidableEq Json := fun a b => decidable_of_iff _ (same_iff a b)

end DeviceGateway.Json
