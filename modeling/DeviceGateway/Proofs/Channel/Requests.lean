import DeviceGateway.Proofs.Channel.Envelopes

/-
  Which texts are requests. A text is one just when it spells an object with a number below 2^64
  under `msgid` and a string under `msg`, and then it is the request of just that object
  (`Request.parse_eq_ok_iff`); any other text is refused for the first thing that is wrong with it
  (`Request.refused_for`). The text of an object reads as the object, so a request is read from the
  text of its parameters as from its own, as long as there are no fractions in them.
-/

namespace DeviceGateway.Channel

open Json (FloatFree Plain Spells)

variable {text : String} {fields : Fields} {msgid : Nat} {command : String}

theorem word?_eq_some_iff {j : Json} {n : Nat} :
    j.word? = some n ↔ j = .nat n ∧ n < 0x10000000000000000 := by
  constructor
  · intro h
    refine ⟨?_, word?_lt h⟩
    cases j with
    | int m =>
      by_cases hrange : (decide (0 ≤ m) && decide (m < 0x10000000000000000)) = true
      · have hn : m.toNat = n := Option.some.inj ((if_pos hrange).symm.trans h)
        simp only [Bool.and_eq_true, decide_eq_true_eq] at hrange
        show Json.int m = .int (n : Int)
        rw [← hn, Int.toNat_of_nonneg hrange.1]
      · cases (if_neg hrange).symm.trans h
    | _ => cases h
  · rintro ⟨rfl, hn⟩
    exact word?_nat hn

theorem str?_eq_some_iff {j : Json} {s : String} : j.str? = some s ↔ j = .str s := by
  constructor
  · intro h
    cases j with
    | str s' => exact congrArg Json.str (Option.some.inj h)
    | _ => cases h
  · rintro rfl
    rfl

/-- Does the object have the number below 2^64? -/
def IsNumbered (fields : Fields) (msgid : Nat) : Prop :=
  Fields.get? "msgid" fields = some (.nat msgid) ∧ msgid < 0x10000000000000000

/-- Does the object have the command? -/
def IsCommanded (fields : Fields) (command : String) : Prop :=
  Fields.get? "msg" fields = some (.str command)

theorem isNumbered_iff :
    (Fields.get? "msgid" fields).bind Json.word? = some msgid ↔ IsNumbered fields msgid := by
  unfold IsNumbered
  rw [Option.bind_eq_some_iff]
  constructor
  · rintro ⟨j, hj, hword⟩
    obtain ⟨rfl, hn⟩ := word?_eq_some_iff.mp hword
    exact ⟨hj, hn⟩
  · rintro ⟨hj, hn⟩
    exact ⟨_, hj, word?_nat hn⟩

theorem isCommanded_iff :
    (Fields.get? "msg" fields).bind Json.str? = some command ↔ IsCommanded fields command := by
  unfold IsCommanded
  rw [Option.bind_eq_some_iff]
  constructor
  · rintro ⟨j, hj, hstr⟩
    rw [← str?_eq_some_iff.mp hstr]
    exact hj
  · intro hj
    exact ⟨_, hj, rfl⟩

/-- Is this the first thing that is wrong with the text? -/
inductive IsWrong (text : String) : Violation → Prop
  | invalidJson {reason : String} : (∀ v, ¬ Spells (utf8 text) v) →
      IsWrong text (.invalidJson reason)
  | notAnObject {v : Json} : Spells (utf8 text) v → (∀ fields, v ≠ .obj fields) →
      IsWrong text .notAnObject
  | invalidMsgId {fields : Fields} : Spells (utf8 text) (.obj fields) →
      (∀ msgid, ¬ IsNumbered fields msgid) → IsWrong text .invalidMsgId
  | invalidCommand {fields : Fields} {msgid : Nat} : Spells (utf8 text) (.obj fields) →
      IsNumbered fields msgid → (∀ command, ¬ IsCommanded fields command) →
      IsWrong text .invalidCommand

/-- A text is a request just when it spells an object that has a number and a command. -/
theorem Request.parse_eq_ok_iff {r : Request} : Request.parse text = .ok r ↔
    Spells (utf8 text) (.obj r.params) ∧ IsNumbered r.params r.msgid ∧
      IsCommanded r.params r.command := by
  constructor
  · intro h
    unfold Request.parse at h
    split at h
    · next value hread =>
      rw [Json.parse_eq_ok_iff] at hread
      unfold Request.ofJson at h
      split at h
      · dsimp only at h
        split at h
        · cases h
        · cases h
        · next hmsgid hcommand =>
          cases h
          exact ⟨hread, isNumbered_iff.mp hmsgid, isCommanded_iff.mp hcommand⟩
      · cases h
    · cases h
  · rintro ⟨hspells, hmsgid, hcommand⟩
    unfold Request.parse
    rw [Json.parse_eq_ok_iff.mpr hspells]
    exact Request.ofJson_eq_ok (isNumbered_iff.mpr hmsgid) (isCommanded_iff.mpr hcommand)

/-- A text that is no request is refused for the first thing that is wrong with it. -/
theorem Request.refused_for {e : Violation} (h : Request.parse text = .error e) :
    IsWrong text e := by
  unfold Request.parse at h
  split at h
  · next value hread =>
    rw [Json.parse_eq_ok_iff] at hread
    unfold Request.ofJson at h
    split at h
    · next fields =>
      dsimp only at h
      split at h
      · next hmsgid =>
        cases h
        refine .invalidMsgId hread fun msgid hnumber => ?_
        rw [isNumbered_iff.mpr hnumber] at hmsgid
        cases hmsgid
      · next msgid hmsgid hcommand =>
        cases h
        refine .invalidCommand hread (isNumbered_iff.mp hmsgid) fun command hname => ?_
        rw [isCommanded_iff.mpr hname] at hcommand
        cases hcommand
      · cases h
    · next hother =>
      cases h
      exact .notAnObject hread fun fields heq => hother fields heq
  · next fault hread =>
    cases h
    refine .invalidJson fun v hspells => ?_
    rw [Json.parse_eq_ok_iff.mpr hspells] at hread
    cases hread

/-- The text of an object that has a number and a command is the request of that object; a text is
a request just when it spells such an object; the text of a request's parameters is the same
request, if there are no fractions in them; and whatever is refused is refused for the first thing
that is wrong with it. -/
theorem requests_read_back :
    (∀ fields msgid command, Plain Json.maxDepth (.obj fields) → IsNumbered fields msgid →
      IsCommanded fields command →
      Request.parse (Json.obj fields).text = .ok { msgid, command, params := fields }) ∧
    (∀ text r, Request.parse text = .ok r ↔ Spells (utf8 text) (.obj r.params) ∧
      IsNumbered r.params r.msgid ∧ IsCommanded r.params r.command) ∧
    (∀ text r, Request.parse text = .ok r → FloatFree (.obj r.params) →
      Request.parse (Json.obj r.params).text = .ok r) ∧
    (∀ text e, Request.parse text = .error e → IsWrong text e) := by
  have hwritten : ∀ fields msgid command, Plain Json.maxDepth (.obj fields) →
      IsNumbered fields msgid → IsCommanded fields command →
      Request.parse (Json.obj fields).text = .ok { msgid, command, params := fields } := by
    intro fields msgid command hplain hmsgid hcommand
    exact Request.parse_eq_ok_iff.mpr
      ⟨Json.parse_eq_ok_iff.mp (Json.parse_text hplain), hmsgid, hcommand⟩
  refine ⟨hwritten, fun _ _ => Request.parse_eq_ok_iff, ?_, fun _ _ => Request.refused_for⟩
  intro text r h hfree
  obtain ⟨hspells, hmsgid, hcommand⟩ := Request.parse_eq_ok_iff.mp h
  exact hwritten _ _ _ (Json.plain_of_spells hspells hfree) hmsgid hcommand

/-- A ping, with an escape and two numbers of which the last one counts. -/
def knottyPing : String := " \x7b\"msgid\":1,\"msg\":\"p\\u0069ng\",\"msgid\" : 7\x7d\n"

def ping : Request :=
  { msgid := 7, command := "ping", params := [("msg", .str "ping"), ("msgid", .nat 7)] }

theorem knottyPing_reads_back :
    Request.parse (Json.obj ping.params).text = .ok ping ∧
    Spells (utf8 knottyPing) (.obj ping.params) ∧
    Request.parse (Json.obj ping.params).text = Request.parse knottyPing ∧
    IsWrong "[]" .notAnObject := by
  have hplain : Plain Json.maxDepth (.obj ping.params) := by
    refine Plain.obj (show List.Pairwise _ _ by decide) ?_
    exact List.forall_mem_cons.mpr ⟨.str "ping",
      List.forall_mem_cons.mpr ⟨.int (by decide) (by decide), List.forall_mem_nil _⟩⟩
  have hfree : FloatFree (.obj ping.params) := by
    refine .obj ?_
    exact List.forall_mem_cons.mpr ⟨.str "ping",
      List.forall_mem_cons.mpr ⟨.int 7, List.forall_mem_nil _⟩⟩
  have hread : Request.parse knottyPing = .ok ping := rfl
  have hlist : Request.parse "[]" = .error .notAnObject := rfl
  obtain ⟨hwritten, hspelled, hagain, hwrong⟩ := requests_read_back
  refine ⟨hwritten ping.params 7 "ping" hplain ⟨rfl, by decide⟩ rfl, ?_, ?_, hwrong "[]" _ hlist⟩
  · exact ((hspelled knottyPing ping).mp hread).1
  · exact (hagain knottyPing ping hread hfree).trans hread.symm

end DeviceGateway.Channel
