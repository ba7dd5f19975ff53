import DeviceGateway.Proofs.Json.Printer
import DeviceGateway.Proofs.Json.Reading

/-
  Reading back a written value. The text of a value spells the value (`value_wire`): by induction
  on it, where every character is written as it is or as an escape that spells it (`escape_spec`),
  and the items of a list and the fields of an object are written alike (`items_wire`). So a text
  of a value without fractions, its brackets not too deep, reads as the value (`parse_text`); and
  what is read of any text at all is such a value, if there are no fractions in it
  (`plain_of_spells`).
-/

namespace DeviceGateway.Json

/-- Is this a value as it is held, without fractions, and with no more than so many brackets in one
another? -/
inductive Plain : Nat → Json → Prop
  | null {d : Nat} : Plain d .null
  | bool {d : Nat} (b : Bool) : Plain d (.bool b)
  | int {d : Nat} {n : Int} (hlow : -0x8000000000000000 ≤ n) (hhigh : n < 0x10000000000000000) :
      Plain d (.int n)
  | str {d : Nat} (s : String) : Plain d (.str s)
  | arr {d : Nat} {items : List Json} (h : ∀ x ∈ items, Plain d x) : Plain (d + 1) (.arr items)
  | obj {d : Nat} {fields : Fields} (hsorted : fields.Sorted) (h : ∀ f ∈ fields, Plain d f.2) :
      Plain (d + 1) (.obj fields)

/-- The octets of a value's text. -/
def wire (j : Json) : Bytes := octets j.text.toList

variable {j : Json} {c : Char} {n d : Nat} {bs rest : Bytes}

/-! ## What is written -/

/-- The octets of a field. -/
def fieldWire (f : String × Json) : Bytes :=
  0x22 :: (octets (f.1.toList.flatMap escape) ++ 0x22 :: 0x3A :: wire f.2)

theorem octets_fieldChars (f : String × Json) : octets (fieldChars f) = fieldWire f := by
  unfold fieldChars quoted fieldWire wire
  rw [octets_append, octets_cons, octets_append, octets_cons, List.append_assoc]
  rfl

theorem octets_flatMap {α : Type} (chars : α → List Char) (ys : List α) :
    octets (ys.flatMap fun y => ',' :: chars y) =
      ys.flatMap fun y => 0x2C :: octets (chars y) := by
  unfold octets
  rw [List.flatMap_assoc]
  rfl

theorem wire_arr (x : Json) (xs : List Json) : wire (.arr (x :: xs)) =
    0x5B :: (wire x ++ xs.flatMap (fun y => 0x2C :: wire y)) ++ [0x5D] := by
  unfold wire
  rw [text_arr, octets_append, octets_cons, octets_append, octets_flatMap]
  rfl

theorem wire_obj (f : String × Json) (fs : List (String × Json)) : wire (.obj (f :: fs)) =
    0x7B :: (fieldWire f ++ fs.flatMap (fun g => 0x2C :: fieldWire g)) ++ [0x7D] := by
  unfold wire
  rw [text_obj, octets_append, octets_cons, octets_append, octets_flatMap, octets_fieldChars]
  simp only [octets_fieldChars]
  rfl

theorem wire_str (s : String) :
    wire (.str s) = 0x22 :: (octets (s.toList.flatMap escape) ++ [0x22]) := by
  unfold wire
  rw [text_str]
  unfold quoted
  rw [octets_append, octets_cons]
  rfl

theorem wire_int (n : Int) : wire (.int n) =
    if n < 0 then 0x2D :: octets (Nat.toDigits 10 n.natAbs)
    else octets (Nat.toDigits 10 n.natAbs) := by
  unfold wire
  rw [text_int]
  unfold intChars
  split <;> rfl

/-! ## Strings and numbers -/

/-- The four digits of a control character. -/
theorem escape_control (h : n < 32) (more : Bytes) :
    Escape (octets ['u', '0', '0', hexDigit (n / 16), hexDigit (n % 16)] ++ more)
      (Char.ofNat n) more := by
  have hall : ∀ n < 32, octets ['u', '0', '0', hexDigit (n / 16), hexDigit (n % 16)] =
      [0x75, 0x30, 0x30, UInt8.ofNat (hexDigit (n / 16)).toNat,
        UInt8.ofNat (hexDigit (n % 16)).toNat] ∧
      ofHexDigits? [0x30, 0x30, UInt8.ofNat (hexDigit (n / 16)).toNat,
        UInt8.ofNat (hexDigit (n % 16)).toNat] = some n := by decide
  obtain ⟨hoctets, hread⟩ := hall n h
  rw [hoctets]
  exact .code (.digits hread) (by unfold IsHigh; omega) (by unfold IsLow; omega)

/-- A character is written as it is, or as an escape that spells the character. -/
theorem escape_spec (c : Char) :
    (escape c = [c] ∧ c ≠ '"' ∧ c ≠ '\\' ∧ 0x20 ≤ c.toNat) ∨
      ∃ e, escape c = '\\' :: e ∧ ∀ more, Escape (octets e ++ more) c more := by
  unfold escape
  by_cases hquote : c = '"'
  · rw [if_pos hquote, hquote]
    exact Or.inr ⟨_, rfl, fun _ => .quote⟩
  rw [if_neg hquote]
  by_cases hslash : c = '\\'
  · rw [if_pos hslash, hslash]
    exact Or.inr ⟨_, rfl, fun _ => .backslash⟩
  rw [if_neg hslash]
  by_cases hline : c = '\n'
  · rw [if_pos hline, hline]
    exact Or.inr ⟨_, rfl, fun _ => .newline⟩
  rw [if_neg hline]
  by_cases hreturn : c = '\r'
  · rw [if_pos hreturn, hreturn]
    exact Or.inr ⟨_, rfl, fun _ => .carriageReturn⟩
  rw [if_neg hreturn]
  by_cases htab : c = '\t'
  · rw [if_pos htab, htab]
    exact Or.inr ⟨_, rfl, fun _ => .tab⟩
  rw [if_neg htab]
  by_cases hback : c = '\x08'
  · rw [if_pos hback, hback]
    exact Or.inr ⟨_, rfl, fun _ => .backspace⟩
  rw [if_neg hback]
  by_cases hfeed : c = '\x0c'
  · rw [if_pos hfeed, hfeed]
    exact Or.inr ⟨_, rfl, fun _ => .formFeed⟩
  rw [if_neg hfeed]
  by_cases hctrl : c.toNat < 0x20
  · rw [if_pos hctrl]
    refine Or.inr ⟨_, rfl, fun more => ?_⟩
    have hescape := escape_control hctrl more
    rw [Char.ofNat_toNat] at hescape
    exact hescape
  · rw [if_neg hctrl]
    exact Or.inl ⟨rfl, hquote, hslash, Nat.not_lt.mp hctrl⟩

/-- What is written of a string after its first quote spells the string. -/
theorem letters_escape (cs : List Char) (rest : Bytes) :
    Letters (octets (cs.flatMap escape) ++ 0x22 :: rest) cs rest := by
  induction cs with
  | nil => exact .close
  | cons c cs ih =>
    rw [List.flatMap_cons, octets_append, List.append_assoc]
    rcases escape_spec c with ⟨hself, hquote, hslash, hctrl⟩ | ⟨e, hescape, hread⟩
    · have hoctets : octets (escape c) = String.utf8EncodeChar c := by
        rw [hself, octets_cons]
        exact List.append_nil _
      rw [hoctets]
      exact .plain hquote hslash hctrl ih
    · rw [hescape]
      exact .escaped (hread _) ih

theorem quoted_escape (s : String) (rest : Bytes) :
    Quoted (0x22 :: (octets (s.toList.flatMap escape) ++ 0x22 :: rest)) s rest :=
  .quote (letters_escape s.toList rest)

/-- The digits of a number spell it. -/
theorem unsigned_digits (n : Nat) (negative : Bool) (rest : Bytes) :
    Unsigned (octets (Nat.toDigits 10 n) ++ rest)
      { negative, whole := octets (Nat.toDigits 10 n), fraction := none, exponent := none }
      rest := by
  obtain ⟨hall, -⟩ := octets_digits (Toml.isDigit_toDigits n) 0
  by_cases hn : n = 0
  · subst hn
    exact .parts ⟨by decide, hall⟩ (fun _ => rfl) .none .none
  · obtain ⟨c, r, hdigits, hc⟩ := Toml.toDigits_head (Nat.pos_of_ne_zero hn)
    obtain ⟨hdigit, -⟩ := List.forall_mem_cons.mp (hdigits ▸ Toml.isDigit_toDigits n)
    obtain ⟨hoctet, -, -, hne⟩ := octet_digit hdigit
    have hoctets : octets (Nat.toDigits 10 n) = UInt8.ofNat c.toNat :: octets r := by
      rw [hdigits, octets_cons, hoctet]
      rfl
    refine .parts ⟨?_, hall⟩ ?_ .none .none
    · rw [hoctets]
      exact List.cons_ne_nil _ _
    · rw [hoctets]
      exact fun hzero => absurd (Option.some.inj hzero) (hne hc)

/-- The text of an integer of 64 bits spells it. -/
theorem int_wire {n : Int} (hlow : -0x8000000000000000 ≤ n) (hhigh : n < 0x10000000000000000)
    (rest : Bytes) : Scalar (wire (.int n) ++ rest) (.int n) rest := by
  have hdecimal : decimal (octets (Nat.toDigits 10 n.natAbs)) = n.natAbs :=
    (octets_digits (Toml.isDigit_toDigits n.natAbs) 0).2.trans (continued_toDigits n.natAbs)
  have hfits : ¬ 0x10000000000000000 ≤ n.natAbs := by omega
  rw [wire_int]
  by_cases hneg : n < 0
  · have hout : ¬ (decide (n.natAbs = 0) || decide (0x8000000000000000 < n.natAbs)) = true := by
      rw [Bool.or_eq_true, decide_eq_true_eq, decide_eq_true_eq]
      omega
    have hvalue : -(n.natAbs : Int) = n := by omega
    rw [if_pos hneg, List.cons_append]
    refine .number (.negative rfl (unsigned_digits n.natAbs true rest)) ?_
    show (if 0x10000000000000000 ≤ decimal _ then _ else if _ then _ else _) = _
    rw [hdecimal, if_neg hfits, if_neg hout, hvalue]
    rfl
  · have hvalue : (n.natAbs : Int) = n := by omega
    rw [if_neg hneg]
    refine .number (.positive rfl (unsigned_digits n.natAbs false rest)) ?_
    show (if 0x10000000000000000 ≤ decimal _ then _ else _) = _
    rw [hdecimal, if_neg hfits, hvalue]
    rfl

/-! ## Lists and objects -/

section

variable {α : Type} {R : Bytes → α → Bytes → Prop} {octetsOf : α → Bytes} {x : α} {xs : List α}

/-- Items behind the first one, each with its comma, spell the items. -/
theorem further_wire (h : ∀ x ∈ xs, ∀ rest, R (octetsOf x ++ rest) x rest) (close : UInt8)
    (rest : Bytes) :
    Further R close (xs.flatMap (fun y => 0x2C :: octetsOf y) ++ close :: rest) xs rest := by
  induction xs with
  | nil => exact .close .none
  | cons x xs ih =>
    obtain ⟨hx, hxs⟩ := List.forall_mem_cons.mp h
    rw [List.flatMap_cons, List.append_assoc, List.cons_append]
    exact .item .none .none (hx _) (ih hxs)

/-- Items with commas between them spell the items. -/
theorem items_wire (h : ∀ y ∈ x :: xs, ∀ rest, R (octetsOf y ++ rest) y rest) (close : UInt8)
    (rest : Bytes) :
    Items R close (octetsOf x ++ (xs.flatMap (fun y => 0x2C :: octetsOf y) ++ close :: rest))
      (x :: xs) rest := by
  obtain ⟨hx, hxs⟩ := List.forall_mem_cons.mp h
  exact .some .none (hx _) (further_wire hxs close rest)

end

/-- A written field spells the field, if its value is spelled. -/
theorem member_wire {R : Bytes → Json → Bytes → Prop} {f : String × Json}
    (h : ∀ rest, R (wire f.2 ++ rest) f.2 rest) (rest : Bytes) :
    Member R (fieldWire f ++ rest) f rest := by
  unfold fieldWire
  rw [List.cons_append, List.append_assoc, List.cons_append, List.cons_append]
  exact .pair (quoted_escape f.1 _) .none .none (h rest)

/-- The text of a value spells the value. -/
theorem value_wire (h : Plain d j) (rest : Bytes) : Value d (wire j ++ rest) j rest := by
  induction h generalizing rest with
  | null => exact .of_scalar .null
  | bool b =>
    cases b with
    | true => exact .of_scalar .true
    | false => exact .of_scalar .false
  | int hlow hhigh => exact .of_scalar (int_wire hlow hhigh rest)
  | str s =>
    rw [wire_str, List.cons_append, List.append_assoc, List.singleton_append]
    exact .of_scalar (.string (quoted_escape s rest))
  | @arr d xs _ ih =>
    refine Or.inr ?_
    cases xs with
    | nil => exact .list (.none .none)
    | cons x xs =>
      rw [wire_arr, List.append_assoc, List.cons_append, List.append_assoc, List.singleton_append]
      exact .list (items_wire ih 0x5D rest)
  | @obj d fs hsorted _ ih =>
    refine Or.inr ?_
    cases fs with
    | nil =>
      have hempty : Items (Member (Value d)) 0x7D (0x7D :: rest) [] rest := .none .none
      exact .object hempty
    | cons f fs =>
      have hpairs := items_wire (fun g hg => member_wire (ih g hg)) 0x7D rest
      have hobject := Compound.object hpairs
      rw [Fields.setAll_self hsorted] at hobject
      rw [wire_obj, List.append_assoc, List.cons_append, List.append_assoc, List.singleton_append]
      exact hobject

/-- A text of a value reads as the value. -/
theorem parse_text (h : Plain maxDepth j) : parse (utf8 j.text) = .ok j := by
  have hvalue := value_wire h []
  rw [List.append_nil] at hvalue
  exact parse_eq_ok_iff.mpr (.text .none hvalue .none)

/-! ## Values of any text -/

/-- Are there no fractions in the value? -/
inductive FloatFree : Json → Prop
  | null : FloatFree .null
  | bool (b : Bool) : FloatFree (.bool b)
  | int (n : Int) : FloatFree (.int n)
  | str (s : String) : FloatFree (.str s)
  | arr {items : List Json} (h : ∀ x ∈ items, FloatFree x) : FloatFree (.arr items)
  | obj {fields : Fields} (h : ∀ f ∈ fields, FloatFree f.2) : FloatFree (.obj fields)

theorem Numeral.float?_eq_some {positive : Bool} {k : Int} {v : Json}
    (h : Numeral.float? positive n k = some v) : ∃ x, v = .float x := by
  unfold Numeral.float? floatOf at h
  dsimp only at h
  split at h
  · exact ⟨_, (Option.some.inj h).symm⟩
  split at h
  · split at h
    · cases h
    · split at h
      · exact ⟨_, (Option.some.inj h).symm⟩
      · cases h
  · split at h
    · exact ⟨_, (Option.some.inj h).symm⟩
    · split at h
      · exact ⟨_, (Option.some.inj h).symm⟩
      · exact ⟨_, (Option.some.inj h).symm⟩

theorem Numeral.scaled?_eq_some {m : Numeral} {v : Json} (h : m.scaled? = some v) :
    ∃ x, v = .float x := by
  unfold Numeral.scaled? at h
  generalize m.digits = digits at h
  obtain ⟨n, k⟩ := digits
  dsimp only at h
  split at h
  · exact Numeral.float?_eq_some h
  · split at h
    · exact Numeral.float?_eq_some h
    · split at h
      · cases h
      · exact Numeral.float?_eq_some h

/-- A number stands for an integer of 64 bits or for a fraction. -/
theorem Numeral.value?_cases {m : Numeral} {v : Json} (h : m.value? = some v) :
    (∃ n : Int, v = .int n ∧ -0x8000000000000000 ≤ n ∧ n < 0x10000000000000000) ∨
      ∃ x, v = .float x := by
  unfold Numeral.value? at h
  dsimp only at h
  split at h
  · exact Or.inr (Numeral.scaled?_eq_some h)
  split at h
  · exact Or.inr (Numeral.scaled?_eq_some h)
  split at h
  · split at h
    · exact Or.inr ⟨_, (Option.some.inj h).symm⟩
    · next hout =>
      rw [Bool.or_eq_true, decide_eq_true_eq, decide_eq_true_eq] at hout
      exact Or.inl ⟨_, (Option.some.inj h).symm, by omega, by omega⟩
  · exact Or.inl ⟨_, (Option.some.inj h).symm, by omega, by omega⟩

theorem Scalar.plain {v : Json} (h : Scalar bs v rest) (hfree : FloatFree v) (d : Nat) :
    Plain d v := by
  cases h with
  | null => exact .null
  | true => exact .bool _
  | false => exact .bool _
  | string => exact .str _
  | number _ hvalue =>
    rcases Numeral.value?_cases hvalue with ⟨n, rfl, hlow, hhigh⟩ | ⟨x, rfl⟩
    · exact .int hlow hhigh
    · cases hfree

section

variable {α : Type} {R : Bytes → α → Bytes → Prop} {close : UInt8} {x : α} {xs : List α}

theorem Further.mem (h : Further R close bs xs rest) (hx : x ∈ xs) : ∃ s t, R s x t := by
  induction h with
  | close => cases hx
  | item _ _ hitem _ ih =>
    rcases List.mem_cons.mp hx with rfl | hx
    · exact ⟨_, _, hitem⟩
    · exact ih hx

theorem Items.mem (h : Items R close bs xs rest) (hx : x ∈ xs) : ∃ s t, R s x t := by
  cases h with
  | none => cases hx
  | some _ hitem hmore =>
    rcases List.mem_cons.mp hx with rfl | hx
    · exact ⟨_, _, hitem⟩
    · exact hmore.mem hx

end

/-- A value that is spelled anywhere is one as it is held, unless there are fractions in it. -/
theorem Value.plain {v : Json} (h : Value d bs v rest) (hfree : FloatFree v) : Plain d v := by
  induction d generalizing bs v rest with
  | zero => exact Scalar.plain h hfree 0
  | succ d ih =>
    rcases h with hscalar | hcompound
    · exact hscalar.plain hfree (d + 1)
    · cases hcompound with
      | list hitems =>
        cases hfree with
        | arr hxs =>
          refine .arr fun x hx => ?_
          obtain ⟨s, t, hvalue⟩ := hitems.mem hx
          exact ih hvalue (hxs x hx)
      | @object _ _ pairs hpairs =>
        cases hfree with
        | obj hfs =>
          refine .obj (Fields.setAll_sorted pairs) fun f hf => ?_
          obtain ⟨s, t, hmember⟩ := hpairs.mem (Fields.mem_setAll hf)
          obtain ⟨-, -, -, hvalue⟩ := hmember
          exact ih hvalue (hfs _ hf)

/-- A text spells a value as it is held, unless there are fractions in it. -/
theorem plain_of_spells {v : Json} (h : Spells bs v) (hfree : FloatFree v) : Plain maxDepth v := by
  obtain ⟨-, hvalue, -⟩ := h
  exact hvalue.plain hfree

end DeviceGateway.Json
