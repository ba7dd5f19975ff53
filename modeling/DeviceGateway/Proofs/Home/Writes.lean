import DeviceGateway.Proofs.Home.Asks
import DeviceGateway.Proofs.Json.Fields
import DeviceGateway.Proofs.Text.Parts
import Mathlib.Data.List.Basic

/-
  The two ways to change a device. A `PUT` below `/res/devices/` and the command `setdevice` make
  the same change, report the same name and state, and fail on the same inputs for the same cause
  (`writes_agree`). The name of the device is the second part of the path, however many slashes
  there are around the parts (`segments_eq_iff`).
-/

namespace DeviceGateway

open Channel

/-! ## Paths -/

/-- The characters of the path of a device, with slashes in front, between and behind. -/
def devicePath (front between behind : Nat) (name : String) : List Char :=
  List.replicate front '/' ++ ("devices".toList ++
    (List.replicate (between + 1) '/' ++ (name.toList ++ List.replicate behind '/')))

theorem segments_eq_iff {name : String} (hname : name ≠ "") (hslash : '/' ∉ name.toList)
    (r : ResourceRequest) : r.segments = ["devices", name] ↔
      ∃ front between behind, r.path.toList = devicePath front between behind name := by
  have hchars : name.toList ≠ [] := fun h => hname (String.toList_eq_nil_iff.mp h)
  have hsegments : r.segments = ["devices", name] ↔
      Text.parts '/' r.path.toList = ["devices".toList, name.toList] := by
    have hmap : ["devices", name] = ["devices".toList, name.toList].map String.ofList := by
      rw [List.map_cons, List.map_singleton, String.ofList_toList, String.ofList_toList]
    rw [hmap]
    exact (List.map_injective_iff.mpr fun _ _ h => String.ofList_injective h).eq_iff
  rw [hsegments]
  constructor
  · intro h
    obtain ⟨front, ds, hpath, hds, hhead⟩ := Text.exists_of_parts h
    obtain ⟨between, es, rfl, hes, -⟩ := Text.exists_of_parts hds
    obtain ⟨behind, rfl⟩ := Text.eq_replicate_of_parts hes
    cases between with
    | zero =>
      obtain ⟨c, cs, hcons⟩ := List.exists_cons_of_ne_nil hchars
      rw [hcons] at hhead hslash
      exact absurd (hhead c rfl ▸ List.mem_cons_self) hslash
    | succ between => exact ⟨front, between, behind, hpath⟩
  · rintro ⟨front, between, behind, hpath⟩
    rw [hpath]
    have hends : ∀ (n : Nat), ∀ d ∈ (List.replicate n '/').head?, d = '/' := by
      intro n d hd
      exact List.eq_of_mem_replicate (List.mem_of_head? hd)
    unfold devicePath
    rw [Text.parts_replicate, Text.parts_append (by decide) (by decide) fun d hd =>
      (Option.mem_some_iff.mp hd).symm, Text.parts_replicate,
      Text.parts_append hchars hslash (hends behind)]
    have hnone : Text.parts '/' (List.replicate behind '/' ++ []) = [] :=
      Text.parts_replicate behind []
    rw [List.append_nil] at hnone
    rw [hnone]

namespace Home

/-! ## Changes -/

/-- What becomes of a direct change. -/
theorem set_outcome (h : Home) (who : Principal) (name : String) (state : Json) :
    (who.allows .control = false ∧ h.set who name state = .error .forbidden) ∨
    (who.allows .control = true ∧ h.get? name = none ∧
      h.set who name state = .error (.notFound name)) ∨
    (who.allows .control = true ∧ (h.get? name).isSome = true ∧
      h.set who name state = .ok (h.stored name state)) := by
  unfold set
  cases who.allows .control with
  | false => exact Or.inl ⟨rfl, rfl⟩
  | true =>
    cases h.get? name with
    | none => exact Or.inr (Or.inl ⟨rfl, rfl, rfl⟩)
    | some _ => exact Or.inr (Or.inr ⟨rfl, rfl, rfl⟩)

/-- The fields in which a change is reported. -/
def reported (name : String) (state : Json) : Fields := [("name", .str name), ("state", state)]

theorem device_fields (name : String) (state : Json) :
    device name state = .obj (reported name state) := by
  have hlt : "name" < "state" := by decide
  unfold device Json.ofPairs Fields.ofLatest reported
  simp [Fields.insertNew, hlt]

/-- A command that changes a device does as a direct change does, and reports the name and the
state, or the cause. -/
theorem dispatch_change {call : Call} {name : String} {state : Json}
    (hcommand : call.request.command = "setdevice")
    (hname : call.request.text? "name" = some name)
    (hstate : call.request.param? "state" = some state) (h : Home) :
    commands.dispatch call h = match h.set call.owner name state with
      | .ok h' => (h', { msgid := call.request.msgid, fields := reported name state })
      | .error e => (h, { msgid := call.request.msgid, error := some (.str e.code) }) := by
  rw [dispatch_setDevice hcommand h]
  cases hset : h.set call.owner name state with
  | ok h' =>
    have hdone : setDevice call h =
        { world := h', edits := [.insert "name" (.str name), .insert "state" state] } := by
      unfold setDevice
      simp only [hname, hstate, hset]
    rw [hdone]
    rfl
  | error e =>
    have hfailed : setDevice call h = { world := h, failure := some e } := by
      unfold setDevice
      simp only [hname, hstate, hset]
    rw [hfailed]
    rfl

/-- A `PUT` on the path of a device does as a direct change does, and reports the name and the
state, or the cause. -/
theorem serve_change {name : String} {state : Json} {r : ResourceRequest}
    (hmethod : r.method = "PUT") (hsegments : r.segments = ["devices", name])
    (hbody : Json.parse r.body = .ok state) (h : Home) (who : Principal) :
    h.serve who r = match h.set who name state with
      | .ok h' => (h', .ok (.json (.obj (reported name state))))
      | .error e => (h, .error (.ofCommand e)) := by
  have hput : put r = some (name, state) := by
    unfold put
    rw [hsegments]
    show (if r.method = "PUT" then _ else none) = _
    rw [if_pos hmethod, hbody]
    rfl
  rw [← device_fields]
  exact serve_put h who hput

/-- A `PUT` on the path of a device and the command that changes it, made by one principal with one
state, leave the same devices and the same sessions. They succeed together, and then the device has
the state, the change is announced, and both report the name and the state and nothing else. They
fail together, and then all is as it was: both are forbidden, or for both there is no such device.
-/
theorem writes_agree (h : Home) (who : Principal) {name : String} (hname : name ≠ "")
    (hslash : '/' ∉ name.toList) (state : Json) {r : ResourceRequest} (hmethod : r.method = "PUT")
    {front between behind : Nat} (hpath : r.path.toList = devicePath front between behind name)
    (hbody : Json.parse r.body = .ok state) {call : Call} (howner : call.owner = who)
    (hcommand : call.request.command = "setdevice")
    (hnamed : call.request.text? "name" = some name)
    (hstate : call.request.param? "state" = some state) :
    let served := h.serve who r
    let answered := commands.dispatch call h
    served.1 = answered.1 ∧
    ((∃ reply, served.2 = .ok reply) ↔ answered.2.isAck = true) ∧
    (∀ reply, served.2 = .ok reply →
      reply = .json (.obj answered.2.fields) ∧ answered.2.fields = reported name state ∧
      served.1 = h.stored name state) ∧
    ∀ e, served.2 = .error e → served.1 = h ∧
      ((e = .forbidden ∧ answered.2.error = some (.str "access denied") ∧
        who.allows .control = false) ∨
      (e = .notFound name ∧ answered.2.error = some (.str "not found") ∧
        who.allows .control = true ∧ h.get? name = none)) := by
  intro served answered
  have hsegments := (segments_eq_iff hname hslash r).mpr ⟨front, between, behind, hpath⟩
  have hserved : served = _ := serve_change hmethod hsegments hbody h who
  have hanswered : answered = _ := dispatch_change hcommand hnamed hstate h
  rw [howner] at hanswered
  rcases set_outcome h who name state with
    ⟨hallows, hset⟩ | ⟨hallows, hnone, hset⟩ | ⟨hallows, hsome, hset⟩
  · rw [hset] at hserved hanswered
    rw [hserved, hanswered]
    refine ⟨rfl, ⟨nofun, nofun⟩, nofun, ?_⟩
    rintro e ⟨⟩
    exact ⟨rfl, Or.inl ⟨rfl, rfl, hallows⟩⟩
  · rw [hset] at hserved hanswered
    rw [hserved, hanswered]
    refine ⟨rfl, ⟨nofun, nofun⟩, nofun, ?_⟩
    rintro e ⟨⟩
    exact ⟨rfl, Or.inr ⟨rfl, rfl, hallows, hnone⟩⟩
  · rw [hset] at hserved hanswered
    rw [hserved, hanswered]
    refine ⟨rfl, ⟨fun _ => rfl, fun _ => ⟨_, rfl⟩⟩, ?_, nofun⟩
    rintro reply ⟨⟩
    exact ⟨rfl, rfl, rfl⟩

/-- A lamp that is on by a request with more slashes than it takes, as by a command. -/
theorem lampOn_agrees :
    let ann : Principal := ⟨"ann", .control⟩
    let h : Home := {
      devices := [("lamp", .bool false)]
      sessions := { all := [{ owner := ann }], entries := [0] } }
    let r : ResourceRequest := {
      method := "PUT", path := "//devices///lamp/", body := utf8 " true" }
    let request : Request := {
      msgid := 5, command := "setdevice", params := [("msg", .str "setdevice"), ("msgid", .int 5),
        ("name", .str "lamp"), ("state", .bool true)] }
    let answered := commands.dispatch ⟨ann, request, 0⟩ h
    (h.serve ann r).1 = answered.1 ∧ (∃ reply, (h.serve ann r).2 = .ok reply) ∧
      answered.2.isAck = true ∧ answered.1.get? "lamp" = some (.bool true) := by
  intro ann h r request answered
  have hpath : r.path.toList = devicePath 2 2 1 "lamp" := by decide
  have hbody : Json.parse r.body = .ok (.bool true) := by rfl
  obtain ⟨hsame, hsuccess, -, -⟩ := writes_agree h ann (show "lamp" ≠ "" by decide) (by decide)
    (.bool true) (show r.method = "PUT" from rfl) hpath hbody
    (show Call.owner ⟨ann, request, 0⟩ = ann from rfl) rfl (by rfl) (by rfl)
  exact ⟨hsame, hsuccess.mpr rfl, rfl, by rfl⟩

end Home

end DeviceGateway
