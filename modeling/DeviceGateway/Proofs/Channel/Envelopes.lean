import DeviceGateway.Proofs.Channel.Exchange
import DeviceGateway.Proofs.Json.RoundTrip

/-
  Responses and events as clients read them. Whatever fields a handler gives its response and
  whenever it fails, the text that is sent reads as an object in which the envelope's own keys say
  what became of the request and all other keys have the values that they were given last
  (`Response.parse_text`); and no event reads as a request or a response, since it has no `msgid`
  (`Push.parse_text`).
-/

namespace DeviceGateway.Channel

open Json (Plain)

/-- How deep the values of an envelope may be: its own brackets come around them. -/
def maxValueDepth : Nat := Json.maxDepth - 1

/-! ## What handlers do to responses -/

/-- The key and the value that an edit sets, if it sets any. -/
def Edit.pair? : Edit → Option (String × Json)
  | .insert key value => some (key, value)
  | .fail _ => none

/-- The error that an edit fails with, if it does. -/
def Edit.error? : Edit → Option Json
  | .insert _ _ => none
  | .fail error => some error

/-- The value that comes with an edit. -/
def Edit.value : Edit → Json
  | .insert _ value => value
  | .fail error => error

/-- Edits set the fields that they set, in turn, and the last error that they fail with. -/
theorem Response.foldl_apply (edits : List Edit) (msgid : Nat) :
    edits.foldl Response.apply { msgid } = {
      msgid
      error := (edits.filterMap Edit.error?).getLast?
      fields := Fields.setAll (edits.filterMap Edit.pair?) [] } := by
  induction edits using List.reverseRecOn with
  | nil => rfl
  | append_singleton edits e ih =>
    rw [List.foldl_append, ih, List.filterMap_append, List.filterMap_append]
    cases e with
    | insert key value =>
      show Response.insert _ key value = _
      have hpair : [Edit.insert key value].filterMap Edit.pair? = [(key, value)] := rfl
      have herror : [Edit.insert key value].filterMap Edit.error? = [] := rfl
      rw [hpair, herror, Fields.setAll_append, List.append_nil]
      rfl
    | fail error =>
      show Response.fail _ error = _
      have hpair : [Edit.fail error].filterMap Edit.pair? = [] := rfl
      have herror : [Edit.fail error].filterMap Edit.error? = [error] := rfl
      rw [hpair, herror, List.getLast?_concat, List.append_nil]
      rfl

namespace CommandTable

variable {σ : Type}

/-- What the handler of a request does to its response. -/
def edits (t : CommandTable σ) (call : Call) (world : σ) : List Edit :=
  ((t.find? call.request.command).map fun handler => (handler call world).edits).getD []

/-- The error of a request: the code that its handler returns, or else what it has failed with last;
a command that nobody handles has invalid arguments. -/
def error? (t : CommandTable σ) (call : Call) (world : σ) : Option Json :=
  match t.find? call.request.command with
  | none => some (.str "invalid arguments")
  | some handler =>
    match (handler call world).failure with
    | some e => some (.str e.code)
    | none => ((handler call world).edits.filterMap Edit.error?).getLast?

theorem dispatch_response (t : CommandTable σ) (call : Call) (world : σ) :
    (t.dispatch call world).2 = {
      msgid := call.request.msgid
      error := t.error? call world
      fields := Fields.setAll ((t.edits call world).filterMap Edit.pair?) [] } := by
  unfold dispatch error? edits
  cases t.find? call.request.command with
  | none => rfl
  | some handler =>
    dsimp only [Option.map_some, Option.getD_some]
    unfold respond
    rw [Response.foldl_apply]
    cases (handler call world).failure with
    | none => rfl
    | some e => rfl

/-- An error is a code, or one of the values that the handler has failed with. -/
theorem error_plain {t : CommandTable σ} {call : Call} {world : σ} {d : Nat} {e : Json}
    (hvalues : ∀ e ∈ t.edits call world, Plain d e.value) (h : t.error? call world = some e) :
    Plain d e := by
  unfold error? at h
  unfold edits at hvalues
  cases hfind : t.find? call.request.command with
  | none =>
    rw [hfind] at h
    cases h
    exact .str _
  | some handler =>
    rw [hfind] at h hvalues
    dsimp only at h
    cases hfailure : (handler call world).failure with
    | some code =>
      rw [hfailure] at h
      cases h
      exact .str _
    | none =>
      rw [hfailure] at h
      obtain ⟨edit, hedit, herror⟩ := List.mem_filterMap.mp (List.mem_of_getLast? h)
      have hplain := hvalues edit hedit
      cases edit with
      | insert key value => cases herror
      | fail error =>
        cases herror
        exact hplain

end CommandTable

/-! ## What is sent -/

/-- What is sent of a response, key by key. -/
theorem Response.json_fields (r : Response) : ∃ fields, r.json = .obj fields ∧
    ∀ key, Fields.get? key fields =
      if key = "msgid" then some (.nat r.msgid)
      else if key = "msg" then some (.str (if r.isAck then "ack" else "nack"))
      else if key = "error" then r.error
      else Fields.get? key r.fields := by
  obtain ⟨msgid, error, fields⟩ := r
  refine ⟨_, rfl, fun key => ?_⟩
  by_cases hmsgid : key = "msgid"
  · subst hmsgid
    cases error <;> simp [Fields.get?_erase, Fields.get?_insert]
  by_cases hmsg : key = "msg"
  · subst hmsg
    cases error <;> simp [Fields.get?_erase, Fields.get?_insert, Response.isAck]
  by_cases herror : key = "error"
  · subst herror
    cases error <;> simp [Fields.get?_erase, Fields.get?_insert]
  rw [if_neg hmsgid, if_neg hmsg, if_neg herror]
  cases error with
  | none =>
    dsimp only
    rw [Fields.get?_erase_of_ne (Ne.symm herror), Fields.get?_insert_of_ne (Ne.symm hmsg),
      Fields.get?_insert_of_ne (Ne.symm hmsgid)]
  | some e =>
    dsimp only
    rw [Fields.get?_insert_of_ne (Ne.symm herror), Fields.get?_insert_of_ne (Ne.symm hmsg),
      Fields.get?_insert_of_ne (Ne.symm hmsgid)]

/-- Fields that may stand in an envelope: keys in ascending order, and no value too deep. -/
def Fit (fields : Fields) : Prop := fields.Sorted ∧ ∀ f ∈ fields, Plain maxValueDepth f.2

theorem Fit.insert {fields : Fields} (h : Fit fields) (key : String) {value : Json}
    (hvalue : Plain maxValueDepth value) : Fit (Fields.insert key value fields) := by
  refine ⟨Fields.insert_sorted key value h.1, fun f hf => ?_⟩
  rcases Fields.mem_insert hf with rfl | hf
  · exact hvalue
  · exact h.2 f hf

theorem Fit.erase {fields : Fields} (h : Fit fields) (key : String) :
    Fit (Fields.erase key fields) :=
  ⟨h.1.filter _, fun f hf => h.2 f (List.mem_filter.mp hf).1⟩

theorem Fit.setAll {pairs : List (String × Json)}
    (h : ∀ p ∈ pairs, Plain maxValueDepth p.2) : Fit (Fields.setAll pairs []) :=
  ⟨Fields.setAll_sorted pairs, fun f hf => h f (Fields.mem_setAll hf)⟩

/-- The text of fields that may stand in an envelope reads as the fields. -/
theorem Fit.parse_text {fields : Fields} (h : Fit fields) :
    Json.parse (utf8 (Json.obj fields).text) = .ok (.obj fields) :=
  Json.parse_text (Plain.obj h.1 h.2)

theorem Response.json_fit {r : Response} (hmsgid : r.msgid < 0x10000000000000000)
    (hfields : Fit r.fields) (herror : ∀ e, r.error = some e → Plain maxValueDepth e) :
    ∃ fields, r.json = .obj fields ∧ Fit fields := by
  have hid : Plain maxValueDepth (.nat r.msgid) :=
    .int (by omega) (Int.ofNat_lt.mpr hmsgid)
  refine ⟨_, rfl, ?_⟩
  cases he : r.error with
  | none => exact ((hfields.insert "msgid" hid).insert "msg" (.str "ack")).erase "error"
  | some e =>
    exact ((hfields.insert "msgid" hid).insert "msg" (.str "nack")).insert "error" (herror e he)

/-! ## What is read -/

theorem word?_nat {n : Nat} (h : n < 0x10000000000000000) : (Json.nat n).word? = some n := by
  show (if decide (0 ≤ (n : Int)) && decide ((n : Int) < 0x10000000000000000) then
    some (n : Int).toNat else none) = some n
  rw [decide_eq_true (by omega), decide_eq_true (by omega), Bool.and_self, if_pos rfl,
    Int.toNat_natCast]

theorem word?_lt {j : Json} {n : Nat} (h : j.word? = some n) : n < 0x10000000000000000 := by
  cases j with
  | int m =>
    by_cases hrange : (decide (0 ≤ m) && decide (m < 0x10000000000000000)) = true
    · have hn : m.toNat = n := Option.some.inj ((if_pos hrange).symm.trans h)
      simp only [Bool.and_eq_true, decide_eq_true_eq] at hrange
      omega
    · cases (if_neg hrange).symm.trans h
  | _ => cases h

/-- The number of a request is below 2^64. -/
theorem Request.msgid_lt {text : String} {request : Request}
    (h : Request.parse text = .ok request) : request.msgid < 0x10000000000000000 := by
  unfold Request.parse at h
  split at h
  · unfold Request.ofJson at h
    split at h
    · next params =>
      dsimp only at h
      split at h
      · cases h
      · cases h
      · next msgid command hmsgid hcommand =>
        cases h
        obtain ⟨value, _, hword⟩ := Option.bind_eq_some_iff.mp hmsgid
        exact word?_lt hword
    · cases h
  · cases h

/-- An object with a number and a command is a request. -/
theorem Request.ofJson_eq_ok {fields : Fields} {msgid : Nat} {command : String}
    (hmsgid : (Fields.get? "msgid" fields).bind Json.word? = some msgid)
    (hcommand : (Fields.get? "msg" fields).bind Json.str? = some command) :
    Request.ofJson (.obj fields) = .ok { msgid, command, params := fields } := by
  unfold ofJson
  dsimp only
  rw [hmsgid, hcommand]

/-- An object without a number is none, whatever else is in it. -/
theorem Request.ofJson_unnumbered {fields : Fields}
    (hmsgid : (Fields.get? "msgid" fields).bind Json.word? = none) :
    Request.ofJson (.obj fields) = .error .invalidMsgId := by
  unfold ofJson
  dsimp only
  rw [hmsgid]

/-- A response that may be written reads as what it says. -/
theorem Response.parse_text {r : Response} (hmsgid : r.msgid < 0x10000000000000000)
    (hfields : Fit r.fields) (herror : ∀ e, r.error = some e → Plain maxValueDepth e) :
    ∃ request, Request.parse r.text = .ok request ∧ request.msgid = r.msgid ∧
      request.command = (if r.isAck then "ack" else "nack") ∧ r.json = .obj request.params := by
  obtain ⟨fields, hjson, hfit⟩ := json_fit hmsgid hfields herror
  obtain ⟨fields', hjson', hget⟩ := r.json_fields
  obtain rfl : fields = fields' := Json.obj.inj (hjson.symm.trans hjson')
  have hread : Json.parse (utf8 r.text) = .ok (.obj fields) := by
    show Json.parse (utf8 r.json.text) = _
    rw [hjson]
    exact hfit.parse_text
  refine ⟨{ msgid := r.msgid, command := if r.isAck then "ack" else "nack", params := fields },
    ?_, rfl, rfl, hjson⟩
  unfold Request.parse
  rw [hread]
  refine Request.ofJson_eq_ok ?_ ?_
  · rw [hget "msgid", if_pos rfl, Option.bind_some, word?_nat hmsgid]
  · rw [hget "msg", if_neg (by decide), if_pos rfl]
    rfl

/-- The event that pairs set in turn make. -/
def Push.ofPairs (name : String) (pairs : List (String × Json)) : Push :=
  pairs.foldl (fun p f => p.insert f.1 f.2) { name }

theorem Push.ofPairs_eq (name : String) (pairs : List (String × Json)) :
    Push.ofPairs name pairs = { name, payload := Fields.setAll pairs [] } := by
  unfold ofPairs
  induction pairs using List.reverseRecOn with
  | nil => rfl
  | append_singleton pairs p ih =>
    rw [List.foldl_append, ih, Fields.setAll_append]
    rfl

/-- What is sent of an event, key by key. -/
theorem Push.json_fields (p : Push) : ∃ fields, p.json = .obj fields ∧
    ∀ key, Fields.get? key fields =
      if key = "msgid" then none
      else if key = "msg" then some (.str p.name)
      else Fields.get? key p.payload := by
  refine ⟨_, rfl, fun key => ?_⟩
  rw [Fields.get?_insert, Fields.get?_erase]
  by_cases hmsgid : key = "msgid"
  · subst hmsgid
    simp
  by_cases hmsg : key = "msg"
  · subst hmsg
    simp
  · rw [if_neg hmsgid, if_neg hmsg, if_neg (Ne.symm hmsg), if_neg (Ne.symm hmsgid)]

/-- An event that may be written reads as its fields, and not as a request. -/
theorem Push.parse_text {p : Push} (h : Fit p.payload) : ∃ fields,
    p.json = .obj fields ∧ Json.parse (utf8 p.text) = .ok (.obj fields) ∧
      Request.parse p.text = .error .invalidMsgId := by
  obtain ⟨fields, hjson, hget⟩ := p.json_fields
  have hfit : Fit fields := by
    obtain rfl := Json.obj.inj hjson
    exact (h.erase "msgid").insert "msg" (.str p.name)
  have hread : Json.parse (utf8 p.text) = .ok (.obj fields) := by
    show Json.parse (utf8 p.json.text) = _
    rw [hjson]
    exact hfit.parse_text
  refine ⟨fields, hjson, hread, ?_⟩
  unfold Request.parse
  rw [hread]
  refine Request.ofJson_unnumbered ?_
  rw [hget "msgid", if_pos rfl]
  rfl

/-! ## Exchanged texts -/

/-- Whatever a handler does to its response, and whether it fails or is not there at all, the text
sent reads as the object of the response, which has the number of the request, says `ack` unless
there is an error, has the error if there is one, and has every other key with the value that the
handler gave it last, if it gave it any. And however an event is put together, its text reads as an
object that has the name of the event, no number and every other key with the value that it was
given last; so it is no request. -/
theorem envelopes_read_back :
    (∀ {σ : Type} (t : CommandTable σ) (call : Call) (world : σ) (text : String),
      Request.parse text = .ok call.request →
      (∀ e ∈ t.edits call world, Plain maxValueDepth e.value) →
      ∃ answer, Request.parse (t.dispatch call world).2.text = .ok answer ∧
        (t.dispatch call world).2.text = (Json.obj answer.params).text ∧
        answer.msgid = call.request.msgid ∧
        answer.command = (if (t.error? call world).isNone then "ack" else "nack") ∧
        answer.param? "error" = t.error? call world ∧
        ∀ key, key ≠ "msgid" → key ≠ "msg" → key ≠ "error" → answer.param? key =
          Fields.lastValue key ((t.edits call world).filterMap Edit.pair?)) ∧
    ∀ (name : String) (pairs : List (String × Json)),
      (∀ p ∈ pairs, Plain maxValueDepth p.2) →
      Request.parse (Push.ofPairs name pairs).text = .error .invalidMsgId ∧
      ∃ fields, Json.parse (utf8 (Push.ofPairs name pairs).text) = .ok (.obj fields) ∧
        (Push.ofPairs name pairs).text = (Json.obj fields).text ∧
        Fields.get? "msgid" fields = none ∧
        Fields.get? "msg" fields = some (.str name) ∧
        ∀ key, key ≠ "msgid" → key ≠ "msg" → Fields.get? key fields =
          Fields.lastValue key pairs := by
  constructor
  · intro σ t call world text hparse hvalues
    have hresponse := t.dispatch_response call world
    generalize (t.dispatch call world).2 = r at hresponse
    have hfields : Fit r.fields := by
      rw [hresponse]
      refine Fit.setAll fun p hp => ?_
      obtain ⟨e, he, hpair⟩ := List.mem_filterMap.mp hp
      have hplain := hvalues e he
      cases e with
      | insert key value =>
        cases hpair
        exact hplain
      | fail error => cases hpair
    have hmsgid : r.msgid < 0x10000000000000000 := by
      rw [hresponse]
      exact Request.msgid_lt hparse
    have herror : ∀ e, r.error = some e → Plain maxValueDepth e := by
      intro e he
      rw [hresponse] at he
      exact CommandTable.error_plain hvalues he
    obtain ⟨answer, hread, hid, hcommand, hjson⟩ := Response.parse_text hmsgid hfields herror
    obtain ⟨fields, hjson', hget⟩ := r.json_fields
    obtain rfl : answer.params = fields := Json.obj.inj (hjson.symm.trans hjson')
    refine ⟨answer, hread, congrArg Json.text hjson, ?_, ?_, ?_, ?_⟩
    · rw [hid, hresponse]
    · rw [hcommand, hresponse]
      rfl
    · rw [Request.param?, hget, if_neg (by decide), if_neg (by decide), if_pos rfl, hresponse]
    · intro key hne hne' hne''
      rw [Request.param?, hget, if_neg hne, if_neg hne', if_neg hne'', hresponse,
        Fields.get?_setAll]
  · intro name pairs hvalues
    have hevent := Push.ofPairs_eq name pairs
    generalize Push.ofPairs name pairs = p at hevent
    have hfields : Fit p.payload := by
      rw [hevent]
      exact Fit.setAll hvalues
    obtain ⟨fields, hjson, hread, hrefused⟩ := Push.parse_text hfields
    obtain ⟨fields', hjson', hget⟩ := p.json_fields
    obtain rfl : fields = fields' := Json.obj.inj (hjson.symm.trans hjson')
    refine ⟨hrefused, fields, hread, congrArg Json.text hjson, ?_, ?_, ?_⟩
    · rw [hget, if_pos rfl]
    · rw [hget, if_neg (by decide), if_pos rfl, hevent]
    · intro key hne hne'
      rw [hget, if_neg hne, if_neg hne', hevent, Fields.get?_setAll]

/-- A handler that sets keys of the envelope and one key twice, and fails in between. -/
def meddler : CommandTable Unit :=
  (CommandTable.mk []).register "set" fun _ world =>
    { world, edits := [.insert "msgid" .null, .insert "on" (.bool true), .fail (.str "busy"),
        .insert "on" (.arr [.int (-3)])] }

theorem meddler_read_back :
    let call : Call := {
      owner := ⟨"ann", .guest⟩
      request := { msgid := 18446744073709551615, command := "set", params :=
        [("msg", .str "set"), ("msgid", .int 18446744073709551615)] }
      session := 0 }
    (∃ answer, Request.parse (meddler.dispatch call ()).2.text = .ok answer ∧
      answer.msgid = 18446744073709551615 ∧ answer.command = "nack" ∧
      answer.param? "error" = some (.str "busy") ∧
      answer.param? "on" = some (.arr [.int (-3)])) ∧
    Request.parse (Push.ofPairs "turned" [("msgid", .int 7), ("msg", .null)]).text =
      .error .invalidMsgId := by
  intro call
  have hread : Request.parse "\x7b\"msg\":\"set\",\"msgid\":18446744073709551615\x7d" =
      .ok call.request := by rfl
  have hvalues : ∀ e ∈ meddler.edits call (), Plain maxValueDepth e.value := by
    intro e he
    have hedits : e ∈ [Edit.insert "msgid" .null, .insert "on" (.bool true), .fail (.str "busy"),
      .insert "on" (.arr [.int (-3)])] := he
    simp only [List.mem_cons, List.not_mem_nil, or_false] at hedits
    rcases hedits with rfl | rfl | rfl | rfl
    · exact .null
    · exact .bool true
    · exact .str "busy"
    · refine .arr fun x hx => ?_
      rw [List.mem_singleton.mp hx]
      exact .int (by decide) (by decide)
  have hpairs : ∀ p ∈ [("msgid", Json.int 7), ("msg", .null)], Plain maxValueDepth p.2 := by
    intro p hp
    simp only [List.mem_cons, List.not_mem_nil, or_false] at hp
    rcases hp with rfl | rfl
    · exact .int (by decide) (by decide)
    · exact .null
  obtain ⟨answer, hanswer, _, hid, hcommand, herror, hother⟩ :=
    envelopes_read_back.1 meddler call () _ hread hvalues
  exact ⟨⟨answer, hanswer, hid, hcommand, herror,
    hother "on" (by decide) (by decide) (by decide)⟩,
    (envelopes_read_back.2 "turned" _ hpairs).1⟩

end DeviceGateway.Channel
