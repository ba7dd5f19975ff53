import DeviceGateway.Home.State
import DeviceGateway.Proofs.Json.Fields
import DeviceGateway.Proofs.Json.Printer

/-
  Telling announcements of changes from the other texts on a channel. The text of a change begins
  with the event's name (`change_announces`), and no response begins so, whatever its handler put
  into it (`response_announces`).
-/

open DeviceGateway.Channel

namespace DeviceGateway.Home

/-- How the announcement of a change begins. -/
def announcement : List Char :=
  '\x7b' :: (Json.quoted "msg" ++ ':' :: Json.quoted deviceChanged)

/-- Is this text the announcement of a change? -/
def announces (text : String) : Bool := announcement.isPrefixOf text.toList

theorem change_json (name : String) (state : Json) : (change name state).json =
    .obj (("msg", .str deviceChanged) :: [("name", .str name), ("state", state)]) := rfl

/-- Every change is announced as one. -/
theorem change_announces (name : String) (state : Json) :
    announces (change name state).text = true := by
  obtain ⟨rest, htext⟩ :=
    Json.text_obj_cons "msg" (.str deviceChanged) [("name", .str name), ("state", state)]
  unfold announces Push.text
  rw [List.isPrefixOf_iff_prefix, change_json, htext, Json.text_str]
  exact ⟨rest, by simp [announcement]⟩

/-! ## Other texts -/

/-- The key of an object that begins like an announcement is that of the event's name. -/
theorem eq_msg_of_announces {k : String} {v : Json} {fs : Fields}
    (h : announces (Json.obj ((k, v) :: fs)).text = true) : k = "msg" := by
  obtain ⟨rest, htext⟩ := Json.text_obj_cons k v fs
  unfold announces announcement at h
  rw [List.isPrefixOf_iff_prefix, htext] at h
  have hkey := (List.cons_prefix_cons.mp (List.cons_prefix_cons.mp h).2).2
  have hquote : "msg".toList ++ ['"'] <+: k.toList.flatMap Json.escape ++
      '"' :: (':' :: (v.text.toList ++ rest)) := by
    refine List.IsPrefix.trans ⟨':' :: Json.quoted deviceChanged, ?_⟩ (by simpa using hkey)
    decide
  exact String.toList_injective (Json.eq_of_quoted_prefix (by decide) (by decide) hquote)

/-- The value under it begins like the event's name. -/
theorem value_of_announces {v : Json} {fs : Fields}
    (h : announces (Json.obj (("msg", v) :: fs)).text = true) :
    ∃ rest, Json.quoted deviceChanged <+: v.text.toList ++ rest := by
  obtain ⟨rest, htext⟩ := Json.text_obj_cons "msg" v fs
  unfold announces announcement at h
  rw [List.isPrefixOf_iff_prefix, htext, List.cons_prefix_cons, List.prefix_append_right_inj,
    List.cons_prefix_cons] at h
  exact ⟨rest, h.2.2⟩

/-- An object whose name says something else announces nothing. -/
theorem announces_obj {fs : Fields} (word : String)
    (hword : Fields.get? "msg" fs = some (.str word))
    (hne : ∀ rest, ¬ Json.quoted deviceChanged <+: Json.quoted word ++ rest) :
    announces (Json.obj fs).text = false := by
  cases h : announces (Json.obj fs).text with
  | false => rfl
  | true =>
    cases fs with
    | nil => cases hword
    | cons e fs =>
      obtain ⟨k, v⟩ := e
      have hk := eq_msg_of_announces h
      subst hk
      obtain ⟨rest, hvalue⟩ := value_of_announces h
      have hv : v = .str word := Option.some.inj hword
      rw [hv, Json.text_str] at hvalue
      exact absurd hvalue (hne rest)

/-- No response announces a change. -/
theorem response_announces (r : Response) : announces r.text = false := by
  unfold Response.text Response.json
  cases r.error with
  | none =>
    refine announces_obj "ack" ?_ ?_
    · rw [Fields.get?_erase_of_ne (by decide), Fields.get?_insert_self]
    · intro rest h
      exact absurd (List.cons_prefix_cons.mp (List.cons_prefix_cons.mp h).2).1 (by decide)
  | some e =>
    refine announces_obj "nack" ?_ ?_
    · rw [Fields.get?_insert_of_ne (by decide), Fields.get?_insert_self]
    · intro rest h
      exact absurd (List.cons_prefix_cons.mp (List.cons_prefix_cons.mp h).2).1 (by decide)

end DeviceGateway.Home
