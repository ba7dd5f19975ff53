import DeviceGateway.Proofs.Net.Numerals

/-
  Which texts are IP addresses, and which of them stand in front of a port. The grammar of IPv4 and
  IPv6 (`AddressText`) is stated apart from the readers: an IPv6 address is eight groups, or fewer
  with two colons for the groups of zero that are left out, and its last two groups may be written
  as an IPv4 address. The readers take just what the grammar has (`ipv4_eq_some_iff`, `ipv6_sound`,
  `ipv6_complete`). In front of a port an IPv6 address stands in brackets and may have a scope
  (`HostText`); with that, an address and a port are read as what they were pasted together from
  (`parse_pasted`).
-/

namespace DeviceGateway.Net

open Text

/-! ## IPv4 -/

/-- The text of an IPv4 address. -/
def dottedText (w x y z : Nat) : List Char :=
  Nat.toDigits 10 w ++ '.' :: (Nat.toDigits 10 x ++ '.' :: (Nat.toDigits 10 y ++ '.' ::
    Nat.toDigits 10 z))

/-- Are four numbers octets? -/
def AreOctets (w x y z : Nat) : Prop := w ≤ 255 ∧ x ≤ 255 ∧ y ≤ 255 ∧ z ≤ 255

theorem ipv4_eq_some_iff {cs r : List Char} {w x y z : Nat} : ipv4 cs = some ((w, x, y, z), r) ↔
    cs = dottedText w x y z ++ r ∧ AreOctets w x y z ∧ ∀ c ∈ r.head?, digit? 10 c = none := by
  have hdot : digit? 10 '.' = none := by decide
  unfold ipv4 dottedText AreOctets
  simp only [Option.bind_eq_bind, Option.bind_eq_some_iff, Prod.exists, octet_eq_some_iff,
    expect_eq_some_iff, Option.pure_def, Option.some.injEq, Prod.mk.injEq]
  constructor
  · rintro ⟨w, _, ⟨rfl, hw, -⟩, _, rfl, x, _, ⟨rfl, hx, -⟩, _, rfl, y, _, ⟨rfl, hy, -⟩, _, rfl, z,
      _, ⟨rfl, hz, hr⟩, ⟨rfl, rfl, rfl, rfl⟩, rfl⟩
    exact ⟨by simp, ⟨hw, hx, hy, hz⟩, hr⟩
  · rintro ⟨rfl, ⟨hw, hx, hy, hz⟩, hr⟩
    refine ⟨w, _, ⟨by simp, hw, ?_⟩, _, rfl, x, _, ⟨rfl, hx, ?_⟩, _, rfl, y, _, ⟨rfl, hy, ?_⟩, _,
      rfl, z, r, ⟨rfl, hz, hr⟩, ⟨rfl, rfl, rfl, rfl⟩, rfl⟩
    all_goals
      simp [hdot]

/-! ## Groups -/

/-- Is a text a group of an IPv6 address: a hexadecimal numeral of up to four digits? -/
def GroupText (cs : List Char) (g : Nat) : Prop := IsNumeral 16 cs g ∧ cs.length ≤ 4

/-- One group or more between colons; an IPv4 address may stand for the last two. -/
inductive Row : (isDotted : Bool) → List Char → List Nat → Prop
  | last {cs : List Char} {g : Nat} (h : GroupText cs g) : Row false cs [g]
  | dotted {w x y z : Nat} (h : AreOctets w x y z) :
      Row true (dottedText w x y z) [w * 256 + x, y * 256 + z]
  | cons {isDotted : Bool} {cs ds : List Char} {g : Nat} {gs : List Nat} (h : GroupText cs g)
      (hrest : Row isDotted ds gs) : Row isDotted (cs ++ ':' :: ds) (g :: gs)

/-- A row, or nothing. -/
def RowOrNone (isDotted : Bool) (cs : List Char) (gs : List Nat) : Prop :=
  (isDotted = false ∧ cs = [] ∧ gs = []) ∨ Row isDotted cs gs

/-- Is a text an IPv6 address of these groups? -/
inductive GroupsText : List Char → List Nat → Prop
  | whole {isDotted : Bool} {cs : List Char} {gs : List Nat} (h : Row isDotted cs gs)
      (height : gs.length = 8) : GroupsText cs gs
  /-- Two colons stand for one group of zero or more. -/
  | short {isDotted : Bool} {cs ds : List Char} {gs hs : List Nat} (h : RowOrNone false cs gs)
      (hrest : RowOrNone isDotted ds hs) (hroom : gs.length + hs.length ≤ 7) :
      GroupsText (cs ++ ':' :: ':' :: ds)
        (gs ++ List.replicate (8 - gs.length - hs.length) 0 ++ hs)

variable {cs r : List Char} {g : Nat} {gs hs : List Nat} {isDotted isFirst : Bool} {room : Nat}

/-- A text behind its colon, unless it is the first. -/
def behindColon (isFirst : Bool) (cs : List Char) : List Char :=
  if isFirst then cs else ':' :: cs

theorem afterColon_eq_some_iff {α : Type} {part : List Char → Option (α × List Char)}
    {a : α × List Char} : afterColon isFirst part cs = some a ↔
      ∃ ds, cs = behindColon isFirst ds ∧ part ds = some a := by
  cases isFirst with
  | true => simp [afterColon, behindColon]
  | false => simp [afterColon, behindColon, Option.bind_eq_some_iff, expect_eq_some_iff]

theorem afterColon_behind {α : Type} (part : List Char → Option (α × List Char)) (cs : List Char) :
    afterColon isFirst part (behindColon isFirst cs) = part cs := by
  cases isFirst with
  | true => rfl
  | false => rfl

/-- What is read as groups is a row, or nothing. -/
theorem groups_sound (h : groups isFirst room cs = (gs, isDotted, r)) : gs.length ≤ room ∧
    ((isDotted = false ∧ gs = [] ∧ cs = r) ∨
      ∃ front, cs = behindColon isFirst (front ++ r) ∧ Row isDotted front gs) := by
  induction room generalizing isFirst cs gs isDotted r with
  | zero =>
    obtain ⟨rfl, rfl, rfl⟩ := by simpa [groups] using h
    exact ⟨Nat.le_refl _, .inl ⟨rfl, rfl, rfl⟩⟩
  | succ room ih =>
    unfold groups at h
    split at h
    · next w x y z s hread =>
      obtain ⟨hroom, hread⟩ := Option.ite_none_right_eq_some.mp hread
      obtain ⟨ds, rfl, hds⟩ := afterColon_eq_some_iff.mp hread
      obtain ⟨rfl, hoctets, -⟩ := ipv4_eq_some_iff.mp hds
      obtain ⟨rfl, rfl, rfl⟩ := by simpa using h
      exact ⟨by simpa using hroom, .inr ⟨_, rfl, .dotted hoctets⟩⟩
    · split at h
      · next g s hread =>
        obtain ⟨ds, rfl, hds⟩ := afterColon_eq_some_iff.mp hread
        obtain ⟨front, rfl, hnumeral, hlength, -⟩ := group_eq_some_iff.mp hds
        have hgroup : GroupText front g := ⟨hnumeral, hlength⟩
        rcases hrest : groups false room s with ⟨gs', isDotted', s'⟩
        rw [hrest] at h
        obtain ⟨rfl, rfl, rfl⟩ := by simpa using h
        obtain ⟨hroom, ⟨rfl, rfl, rfl⟩ | ⟨front', rfl, hrow⟩⟩ := ih hrest
        · exact ⟨by simp, .inr ⟨front, rfl, .last hgroup⟩⟩
        · refine ⟨by simpa using hroom, .inr ⟨front ++ ':' :: front', ?_, .cons hgroup hrow⟩⟩
          simp [behindColon]
      · obtain ⟨rfl, rfl, rfl⟩ := by simpa using h
        exact ⟨Nat.zero_le _, .inl ⟨rfl, rfl, rfl⟩⟩

theorem first_groups_sound (h : groups true room cs = (gs, isDotted, r)) :
    gs.length ≤ room ∧ ∃ front, cs = front ++ r ∧ RowOrNone isDotted front gs := by
  obtain ⟨hroom, ⟨rfl, rfl, rfl⟩ | ⟨front, rfl, hrow⟩⟩ := groups_sound h
  · exact ⟨hroom, [], rfl, .inl ⟨rfl, rfl, rfl⟩⟩
  · exact ⟨hroom, front, rfl, .inr hrow⟩

/-- What is read as an IPv6 address is one. -/
theorem ipv6_sound (h : ipv6 cs = some (gs, r)) :
    ∃ front, cs = front ++ r ∧ GroupsText front gs := by
  unfold ipv6 at h
  rcases hhead : groups true 8 cs with ⟨head, isDotted, s⟩
  rw [hhead] at h
  obtain ⟨hlength, front, rfl, hfront⟩ := first_groups_sound hhead
  dsimp only at h
  split at h
  · next height =>
    obtain ⟨rfl, rfl⟩ := by simpa using h
    obtain ⟨-, -, rfl⟩ | hrow := hfront
    · cases height
    · exact ⟨front, rfl, .whole hrow height⟩
  · next hless =>
    split at h
    · cases h
    · next hplain =>
      obtain rfl : isDotted = false := Bool.eq_false_iff.mpr hplain
      simp only [Option.bind_eq_bind, Option.bind_eq_some_iff, expect_eq_some_iff,
        Option.pure_def, Option.some.injEq, Prod.mk.injEq] at h
      obtain ⟨_, rfl, t, rfl, hgs, hr⟩ := h
      rcases htail : groups true (7 - head.length) t with ⟨tail, isDotted', s'⟩
      rw [htail] at hgs hr
      obtain rfl := hgs
      obtain rfl := hr
      obtain ⟨hroom, back, rfl, hback⟩ := first_groups_sound htail
      have hlength : head.length + tail.length ≤ 7 := by omega
      exact ⟨front ++ ':' :: ':' :: back, by simp, .short hfront hback hlength⟩

/-! ## All there is of it is read -/

/-- Can no further group be read from a text? -/
structure NoMore (r : List Char) : Prop where
  head : ∀ c ∈ r.head?, digit? 16 c = none ∧ c ≠ '.'
  behind : ∀ s, r = ':' :: s → ∀ c ∈ s.head?, digit? 16 c = none

theorem decimal_none {c : Char} (h : digit? 16 c = none) : digit? 10 c = none := by
  unfold digit? at h ⊢
  grind

/-- Where no digit is in front, no address is. -/
theorem ipv4_none (h : ∀ c ∈ cs.head?, digit? 16 c = none) : ipv4 cs = none := by
  refine Option.eq_none_iff_forall_ne_some.mpr ?_
  rintro ⟨⟨w, x, y, z⟩, s⟩ hread
  obtain ⟨rfl, -⟩ := ipv4_eq_some_iff.mp hread
  obtain ⟨c, t, hdigits, hall⟩ := (isNumeral_toDigits w).head (by decide)
  have hc : c ∈ Nat.toDigits 10 w := by simp [hdigits]
  exact hall c hc (decimal_none (h c (by simp [dottedText, hdigits])))

theorem group_none (h : ∀ c ∈ cs.head?, digit? 16 c = none) : group cs = none := by
  refine Option.eq_none_iff_forall_ne_some.mpr ?_
  rintro ⟨g, s⟩ hread
  obtain ⟨front, rfl, hnumeral, -⟩ := group_eq_some_iff.mp hread
  obtain ⟨c, t, rfl, hall⟩ := hnumeral.head (by decide)
  exact hall c List.mem_cons_self (h c rfl)

/-- A group is not the beginning of an IPv4 address. -/
theorem ipv4_of_group (h : GroupText cs g) (hr : ∀ c ∈ r.head?, digit? 16 c = none ∧ c ≠ '.') :
    ipv4 (cs ++ r) = none := by
  refine Option.eq_none_iff_forall_ne_some.mpr ?_
  rintro ⟨⟨w, x, y, z⟩, s⟩ hread
  obtain ⟨htext, -⟩ := ipv4_eq_some_iff.mp hread
  obtain ⟨-, -, -, hdecimal⟩ := (isNumeral_toDigits w).head (by decide)
  obtain ⟨-, -, -, hhex⟩ := h.1.head (by decide)
  -- The first point would stand in the group, or right behind it, or the group end in the digits.
  unfold dottedText at htext
  rw [List.append_assoc, List.append_eq_append_iff] at htext
  rcases htext with ⟨front, hdigits, hbehind⟩ | ⟨back, hgroup, hbehind⟩
  · cases front with
    | nil => exact (hr '.' (by simp [hbehind])).2 rfl
    | cons c front =>
      have hc : c ∈ Nat.toDigits 10 w := by simp [hdigits]
      exact hdecimal c hc (decimal_none (hr c (by simp [hbehind])).1)
  · cases back with
    | nil => exact (hr '.' (by rw [← List.nil_append r, ← hbehind]; simp)).2 rfl
    | cons c back =>
      obtain rfl : '.' = c := (List.cons.inj hbehind).1
      exact hhex '.' (by simp [hgroup]) (by decide)

/-- No groups are read where none begins. -/
theorem groups_none (h : ∀ c ∈ cs.head?, digit? 16 c = none) :
    groups isFirst room (behindColon isFirst cs) = ([], false, behindColon isFirst cs) := by
  cases room with
  | zero => rfl
  | succ room => simp [groups, afterColon_behind, ipv4_none h, group_none h]

theorem groups_noMore (h : NoMore r) : groups false room r = ([], false, r) := by
  cases room with
  | zero => rfl
  | succ room =>
    cases r with
    | nil => simp [groups, afterColon, expect]
    | cons c s =>
      by_cases hc : c = ':'
      · subst hc
        exact groups_none (h.behind s rfl)
      · simp [groups, afterColon, expect, hc]

/-- A group is read, and then what follows it. -/
theorem groups_group {s : List Char} (h : GroupText cs g)
    (hr : ∀ c ∈ r.head?, digit? 16 c = none ∧ c ≠ '.')
    (hrest : groups false room r = (gs, isDotted, s)) :
    groups isFirst (room + 1) (behindColon isFirst (cs ++ r)) = (g :: gs, isDotted, s) := by
  have hgroup : group (cs ++ r) = some (g, r) :=
    group_eq_some_iff.mpr ⟨cs, rfl, h.1, h.2, fun c hc => (hr c hc).1⟩
  simp [groups, afterColon_behind, ipv4_of_group h hr, hgroup, hrest]

/-- A row is read whole when there is room for it and no group goes on behind it. -/
theorem groups_complete (h : Row isDotted cs gs) (hroom : gs.length ≤ room) (hr : NoMore r) :
    groups isFirst room (behindColon isFirst (cs ++ r)) = (gs, isDotted, r) := by
  induction h generalizing isFirst room with
  | last h =>
    obtain ⟨room, rfl⟩ := Nat.exists_eq_add_of_le' hroom
    exact groups_group h hr.head (groups_noMore hr)
  | @dotted w x y z h =>
    obtain ⟨room, rfl⟩ := Nat.exists_eq_add_of_le' hroom
    have hread : ipv4 (dottedText w x y z ++ r) = some ((w, x, y, z), r) :=
      ipv4_eq_some_iff.mpr ⟨rfl, h, fun c hc => decimal_none (hr.head c hc).1⟩
    simp [groups, afterColon_behind, hread]
  | @cons isDotted cs ds g gs h _ ih =>
    cases room with
    | zero => exact absurd hroom (Nat.not_succ_le_zero _)
    | succ room =>
      have hrest := @ih false room (Nat.le_of_succ_le_succ hroom)
      have hcolon : ∀ c ∈ (':' :: (ds ++ r)).head?, digit? 16 c = none ∧ c ≠ '.' := by
        rintro c ⟨rfl⟩
        decide
      rw [List.append_assoc]
      exact groups_group h hcolon hrest

theorem first_groups_complete (h : RowOrNone isDotted cs gs) (room : Nat) (hroom : gs.length ≤ room)
    (hr : NoMore r) : groups true room (cs ++ r) = (gs, isDotted, r) := by
  obtain ⟨rfl, rfl, rfl⟩ | hrow := h
  · have hnone : groups true room (behindColon true r) = ([], false, behindColon true r) :=
      groups_none fun c hc => (hr.head c hc).1
    exact hnone
  · have hall : groups true room (behindColon true (cs ++ r)) = (gs, isDotted, r) :=
      groups_complete hrow hroom hr
    exact hall

theorem noMore_colons (cs : List Char) : NoMore (':' :: ':' :: cs) := by
  have hcolon : digit? 16 ':' = none ∧ ':' ≠ '.' := by decide
  refine ⟨?_, ?_⟩
  · rintro c ⟨rfl⟩
    exact hcolon
  · rintro s hs c hc
    obtain rfl := (List.cons.inj hs).2
    cases hc
    exact hcolon.1

/-- An IPv6 address is read whole when no group goes on behind it. -/
theorem ipv6_complete (h : GroupsText cs gs) (hr : NoMore r) :
    ipv6 (cs ++ r) = some (gs, r) := by
  cases h with
  | whole hrow height =>
    have hread := first_groups_complete (.inr hrow) 8 (Nat.le_of_eq height) hr
    simp [ipv6, hread, height]
  | @short isDotted cs ds gs hs hfront hback hroom =>
    have hhead := first_groups_complete hfront 8 (by omega) (noMore_colons (ds ++ r))
    have htail := first_groups_complete hback (7 - gs.length) (by omega) hr
    have hless : gs.length ≠ 8 := by omega
    simp [ipv6, hhead, hless, expect, htail]

/-! ## In front of a port -/

/-- Is a text an IP address? -/
inductive AddressText : List Char → Ip → Prop
  | v4 {w x y z : Nat} (h : AreOctets w x y z) : AddressText (dottedText w x y z) (.v4 w x y z)
  | v6 {cs : List Char} {gs : List Nat} (h : GroupsText cs gs) : AddressText cs (.v6 gs 0)

/-- Is a text an IP address as it stands in front of a port? One of IPv6 is in brackets, and may
have a scope. -/
inductive HostText : List Char → Ip → Prop
  | v4 {w x y z : Nat} (h : AreOctets w x y z) : HostText (dottedText w x y z) (.v4 w x y z)
  | v6 {cs : List Char} {gs : List Nat} (h : GroupsText cs gs) :
      HostText ('[' :: (cs ++ [']'])) (.v6 gs 0)
  | withScope {cs ds : List Char} {gs : List Nat} {n : Nat} (h : GroupsText cs gs)
      (hscope : IsNumeral 10 ds n) (hn : n ≤ 4294967295) :
      HostText ('[' :: (cs ++ '%' :: (ds ++ [']']))) (.v6 gs n)

theorem noMore_cons {c : Char} (h : digit? 16 c = none ∧ c ≠ '.' ∧ c ≠ ':') (r : List Char) :
    NoMore (c :: r) := by
  refine ⟨?_, fun s hs => absurd (List.cons.inj hs).1 h.2.2⟩
  rintro d ⟨rfl⟩
  exact ⟨h.1, h.2.1⟩

theorem colonPort_end {p : Nat} : colonPort r = some (p, []) ↔
    ∃ port, r = ':' :: port ∧ IsNumeral 10 port p ∧ p ≤ 65535 := by
  unfold colonPort
  simp only [Option.bind_eq_some_iff, expect_eq_some_iff,
    number_eq_some_iff (show 1 < 10 ∧ 10 ≤ 16 by decide), List.append_nil]
  constructor
  · rintro ⟨_, rfl, port, rfl, hport, hp, -⟩
    exact ⟨_, rfl, hport, hp⟩
  · rintro ⟨port, rfl, hport, hp⟩
    exact ⟨port, rfl, port, rfl, hport, hp, nofun⟩

theorem scopeId_sound {n : Nat} (h : scopeId cs = (n, r)) : (n = 0 ∧ cs = r) ∨
    ∃ ds, cs = '%' :: (ds ++ r) ∧ IsNumeral 10 ds n ∧ n ≤ 4294967295 := by
  unfold scopeId at h
  split at h
  · next hread =>
    obtain ⟨rfl, rfl⟩ := by simpa using h
    obtain ⟨_, hexpect, hnumber⟩ := Option.bind_eq_some_iff.mp hread
    obtain rfl := expect_eq_some_iff.mp hexpect
    obtain ⟨ds, rfl, hds, hn, -⟩ := (number_eq_some_iff (by decide)).mp hnumber
    exact .inr ⟨ds, rfl, hds, hn⟩
  · obtain ⟨rfl, rfl⟩ := by simpa using h
    exact .inl ⟨rfl, rfl⟩

theorem scopeId_complete {ds : List Char} {n : Nat} (h : IsNumeral 10 ds n)
    (hn : n ≤ 4294967295) (hr : ∀ c ∈ r.head?, digit? 10 c = none) :
    scopeId ('%' :: (ds ++ r)) = (n, r) := by
  have hnumber : number 10 4294967295 (ds ++ r) = some (n, r) :=
    (number_eq_some_iff (by decide)).mpr ⟨ds, rfl, h, hn, hr⟩
  simp [scopeId, expect, hnumber]

/-- A text reads as an address with a port just when it is a host, a colon and a port. -/
theorem parse_eq_some_iff {text : String} {a : Address} : Address.parse? text = some a ↔
    ∃ host port, text.toList = host ++ ':' :: port ∧ HostText host a.ip ∧
      IsNumeral 10 port a.port ∧ a.port ≤ 65535 := by
  unfold Address.parse?
  generalize text.toList = cs
  obtain ⟨ip, p⟩ := a
  simp only [Option.or_eq_some_iff, Option.bind_eq_bind, Option.bind_eq_some_iff, Prod.exists,
    Option.ite_none_right_eq_some, List.isEmpty_iff, Option.some.injEq, Address.mk.injEq,
    expect_eq_some_iff, ipv4_eq_some_iff]
  constructor
  · rintro (⟨w, x, y, z, r, ⟨rfl, hoctets, -⟩, p, _, hport, rfl, rfl, rfl⟩ |
      ⟨-, t, rfl, gs, r, hread, t', hclose, p, _, hport, rfl, rfl, rfl⟩)
    · obtain ⟨port, rfl, hnumeral, hp⟩ := colonPort_end.mp hport
      exact ⟨_, port, rfl, .v4 hoctets, hnumeral, hp⟩
    · obtain ⟨port, rfl, hnumeral, hp⟩ := colonPort_end.mp hport
      obtain ⟨front, rfl, hgroups⟩ := ipv6_sound hread
      rcases hscope : scopeId r with ⟨n, s⟩
      rw [hscope] at hclose
      obtain rfl := hclose
      obtain ⟨rfl, rfl⟩ | ⟨ds, rfl, hds, hn⟩ := scopeId_sound hscope
      · exact ⟨_, port, by simp, .v6 hgroups, hnumeral, hp⟩
      · exact ⟨_, port, by simp, .withScope hgroups hds hn, hnumeral, hp⟩
  · rintro ⟨host, port, rfl, hhost, hport, hp⟩
    have hread := colonPort_end.mpr ⟨port, rfl, hport, hp⟩
    -- An IPv6 address in its bracket is no IPv4 address.
    have hbracket : ∀ cs, ipv4 ('[' :: cs) = none := fun cs => ipv4_none (by rintro c ⟨rfl⟩; decide)
    have hclose : digit? 16 ']' = none ∧ ']' ≠ '.' ∧ ']' ≠ ':' := by decide
    cases hhost with
    | @v4 w x y z hoctets =>
      exact .inl ⟨w, x, y, z, _, ⟨rfl, hoctets, by rintro c ⟨rfl⟩; decide⟩, p, [], hread, rfl, rfl,
        rfl⟩
    | @v6 cs gs hgroups =>
      have hipv6 := ipv6_complete hgroups (noMore_cons hclose (':' :: port))
      have hscope : scopeId (']' :: ':' :: port) = (0, ']' :: ':' :: port) := rfl
      refine .inr ⟨by simp [hbracket], cs ++ ']' :: ':' :: port, by simp, gs, _, hipv6, ?_⟩
      rw [hscope]
      exact ⟨_, rfl, p, [], hread, rfl, rfl, rfl⟩
    | @withScope cs ds gs n hgroups hds hn =>
      have hbehind : ∀ c ∈ (']' :: ':' :: port).head?, digit? 10 c = none := by
        rintro c ⟨rfl⟩
        decide
      have hscope := scopeId_complete hds hn hbehind
      have hipv6 := ipv6_complete hgroups
        (noMore_cons (c := '%') (by decide) (ds ++ ']' :: ':' :: port))
      refine .inr ⟨by simp [hbracket], cs ++ '%' :: (ds ++ ']' :: ':' :: port), by simp, gs, _,
        hipv6, ?_⟩
      rw [hscope]
      exact ⟨_, rfl, p, [], hread, rfl, rfl, rfl⟩

/-! ## Pasted texts -/

theorem colon_free {port : List Char} {p : Nat} (h : IsNumeral 10 port p) : ':' ∉ port := by
  obtain ⟨-, -, -, hall⟩ := h.head (by decide)
  exact fun hmem => hall ':' hmem (by decide)

/-- A text with a colon and a port pasted behind it is read just when it is a host, and then as
that host with just that port. -/
theorem parse_pasted {host : String} {port : Nat} (hport : port ≤ 65535) {a : Address} :
    Address.parse? (host ++ ":" ++ toString port) = some a ↔
      HostText host.toList a.ip ∧ a.port = port := by
  have htext : (host ++ ":" ++ toString port).toList =
      host.toList ++ ':' :: Nat.toDigits 10 port := by
    simp [Nat.toList_repr]
  rw [parse_eq_some_iff, htext]
  constructor
  · rintro ⟨front, digits, htext, hhost, hdigits, -⟩
    -- The last colon is the one that was pasted.
    obtain ⟨rfl, rfl⟩ := append_sep_inj (colon_free (isNumeral_toDigits port))
      (colon_free hdigits) htext
    exact ⟨hhost, hdigits.unique (by decide) (isNumeral_toDigits port)⟩
  · rintro ⟨hhost, rfl⟩
    exact ⟨_, _, rfl, hhost, isNumeral_toDigits _, hport⟩

/-! ## Addresses and hosts -/

theorem dottedText_mem (w x y z : Nat) : ':' ∉ dottedText w x y z ∧ '[' ∉ dottedText w x y z := by
  have hdecimal : ∀ n, '[' ∉ Nat.toDigits 10 n := by
    intro n hmem
    obtain ⟨-, -, -, hall⟩ := (isNumeral_toDigits n).head (by decide)
    exact hall '[' hmem (by decide)
  exact ⟨by simp [dottedText, colon_free (isNumeral_toDigits _)], by simp [dottedText, hdecimal]⟩

/-- A row has a colon in it when it has three groups, and never a bracket. -/
theorem Row.mem (h : Row isDotted cs gs) : (2 < gs.length → ':' ∈ cs) ∧ '[' ∉ cs := by
  have hgroup : ∀ {cs : List Char} {g : Nat}, GroupText cs g → '[' ∉ cs := by
    intro cs g h hmem
    obtain ⟨-, -, -, hall⟩ := h.1.head (by decide)
    exact hall '[' hmem (by decide)
  induction h with
  | last h => exact ⟨by simp, hgroup h⟩
  | dotted h => exact ⟨by simp, (dottedText_mem _ _ _ _).2⟩
  | cons h _ ih => exact ⟨by simp, by simp [hgroup h, ih.2]⟩

theorem GroupsText.mem (h : GroupsText cs gs) : ':' ∈ cs ∧ '[' ∉ cs := by
  have hmaybe : ∀ {isDotted : Bool} {cs : List Char} {gs : List Nat}, RowOrNone isDotted cs gs →
      '[' ∉ cs := by
    rintro isDotted cs gs (⟨-, rfl, -⟩ | hrow)
    · exact List.not_mem_nil
    · exact hrow.mem.2
  cases h with
  | whole hrow height => exact ⟨hrow.mem.1 (by omega), hrow.mem.2⟩
  | short hfront hback => exact ⟨by simp, by simp [hmaybe hfront, hmaybe hback]⟩

/-- An IPv6 address without brackets does not stand in front of a port. -/
theorem GroupsText.not_host (h : GroupsText cs gs) (ip : Ip) : ¬ HostText cs ip := by
  intro hhost
  obtain ⟨hcolon, hbracket⟩ := h.mem
  cases hhost with
  | v4 _ => exact (dottedText_mem _ _ _ _).1 hcolon
  | v6 _ => exact hbracket List.mem_cons_self
  | withScope _ _ _ => exact hbracket List.mem_cons_self

/-- An IPv4 address stands in front of a port as it is. -/
theorem AddressText.host {w x y z : Nat} (h : AddressText cs (.v4 w x y z)) :
    HostText cs (.v4 w x y z) := by
  cases h with
  | v4 h => exact .v4 h

theorem AddressText.groups {n : Nat} (h : AddressText cs (.v6 gs n)) : GroupsText cs gs := by
  cases h with
  | v6 h => exact h

theorem AddressText.no_bracket {ip : Ip} (h : AddressText cs ip) : '[' ∉ cs := by
  cases h with
  | v4 _ => exact (dottedText_mem _ _ _ _).2
  | v6 h => exact h.mem.2

end DeviceGateway.Net
