import DeviceGateway.Http.Reply
import DeviceGateway.Proofs.Text.Parts
import Mathlib.Logic.Relation

/-
  Lists that the fields of a name write together. All that counts is which members they have, each
  trimmed and in small letters (`hasToken_iff`). The order of the values, how the members are spread
  over them, blanks around a member and the case of letters make no difference to that
  (`Rewrite.mem_members`), so neither do they to a request for a channel or to a reply that ends its
  connection (`rewritten_lists_read_alike`). A value that is not plain text has no members at all;
  to split it can free some (`split_frees_member`).
-/

namespace DeviceGateway.Http

open Text

/-! ## Members of one value -/

/-- The characters of octets below 128. -/
def characters (v : Bytes) : List Char := v.map fun b => Char.ofNat b.toNat

/-- The members of the list that a text writes, as they are compared. -/
def textMembers (cs : List Char) : List (List Char) :=
  (splitOn ',' cs).map fun part => lowerAscii (trim part)

/-- The members of the list that a value writes; none when it is not plain text. -/
def members (v : Bytes) : List (List Char) :=
  if v.all isPlainOctet then textMembers (characters v) else []

variable {v w : Bytes} {vs ws : List Bytes} {name token token' : String} {hs hs' : Headers}

theorem listHas_iff (token : String) (cs : List Char) :
    Headers.listHas token (String.ofList cs) = true ↔ lowerAscii token.toList ∈ textMembers cs := by
  simp [Headers.listHas, textMembers, sameIgnoringCase]

/-- A token is found when it is a member of some value. -/
theorem hasToken_iff : Headers.hasToken name token hs = true ↔
    lowerAscii token.toList ∈ (Headers.values name hs).flatMap members := by
  unfold Headers.hasToken
  generalize Headers.values name hs = vs
  induction vs with
  | nil => simp
  | cons v vs ih =>
    rw [List.flatMap_cons, List.mem_append, ← ih]
    by_cases hv : v.all isPlainOctet = true
    · have htext : plainText? v = some (String.ofList (characters v)) := if_pos hv
      have hmembers : members v = textMembers (characters v) := if_pos hv
      rw [List.filterMap_cons_some htext, List.any_cons, Bool.or_eq_true, listHas_iff, hmembers]
    · have htext : plainText? v = none := if_neg hv
      have hmembers : members v = [] := if_neg hv
      simp [htext, hmembers]

/-! ## Commas -/

/-- The octet of a comma. -/
def comma : UInt8 := 0x2C

/-- What is true of the first 256 numbers as octets is true of every octet. -/
theorem forall_octet {P : UInt8 → Prop} (h : ∀ n < 256, P (UInt8.ofNat n)) (b : UInt8) : P b := by
  have hb := h b.toNat b.toNat_lt
  rwa [UInt8.ofNat_toNat] at hb

/-- Members on both sides of a comma. -/
theorem members_comma (h : (v ++ comma :: w).all isPlainOctet = true) :
    members (v ++ comma :: w) = members v ++ members w := by
  have hboth : v.all isPlainOctet = true ∧ w.all isPlainOctet = true := by
    simpa [comma, isPlainOctet] using h
  have hcs : characters (v ++ comma :: w) = characters v ++ ',' :: characters w := by
    simp [characters, comma]
  unfold members
  rw [if_pos h, if_pos hboth.1, if_pos hboth.2, hcs]
  unfold textMembers
  rw [splitOn_append_sep, List.map_append]

theorem plain_join (hv : v.all isPlainOctet = true) (hw : w.all isPlainOctet = true) :
    (v ++ comma :: w).all isPlainOctet = true := by
  simp [hv, hw, comma, isPlainOctet]

/-! ## Blanks -/

/-- Is the octet a space or a tab? -/
def IsBlankOctet (b : UInt8) : Prop := b = 0x20 ∨ b = 0x09

/-- Is a member of a list another one with spaces and tabs around it? -/
def PaddedMember (p q : Bytes) : Prop :=
  ∃ front back : Bytes, (∀ b ∈ front, IsBlankOctet b) ∧ (∀ b ∈ back, IsBlankOctet b) ∧
    q = front ++ p ++ back

/-- Is a value another one with spaces and tabs around what stands between its commas? -/
def Padded (v w : Bytes) : Prop :=
  List.Forall₂ PaddedMember (v.splitOn comma) (w.splitOn comma)

theorem splitOn_characters (v : Bytes) :
    splitOn ',' (characters v) = (v.splitOn comma).map characters := by
  have hcomma : ∀ b : UInt8, Char.ofNat b.toNat = ',' ↔ b = comma :=
    forall_octet (by decide +kernel)
  rw [splitOn_eq]
  induction v with
  | nil => rfl
  | cons b v ih =>
    have hcons : characters (b :: v) = Char.ofNat b.toNat :: characters v := rfl
    rw [hcons, List.splitOn_cons_eq_if_modifyHead, List.splitOn_cons_eq_if_modifyHead, ih]
    by_cases hb : b = comma
    · simp [hb, characters, comma]
    · have hc : Char.ofNat b.toNat ≠ ',' := fun h => hb ((hcomma b).mp h)
      cases hsplit : v.splitOn comma with
      | nil => exact absurd hsplit (List.splitOn_ne_nil comma v)
      | cons p ps => simp [hb, hc, characters, List.modifyHead]

theorem all_splitOn (v : Bytes) :
    v.all isPlainOctet = (v.splitOn comma).all (·.all isPlainOctet) := by
  induction v with
  | nil => rfl
  | cons b v ih =>
    rw [List.splitOn_cons_eq_if_modifyHead, List.all_cons, ih]
    by_cases hb : b = comma
    · simp [hb, comma, isPlainOctet]
    · cases hsplit : v.splitOn comma with
      | nil => exact absurd hsplit (List.splitOn_ne_nil comma v)
      | cons p ps => simp [hb, List.modifyHead, Bool.and_assoc]

theorem PaddedMember.all_plain {p q : Bytes} (h : PaddedMember p q) :
    p.all isPlainOctet = q.all isPlainOctet := by
  obtain ⟨front, back, hfront, hback, rfl⟩ := h
  have hblank : ∀ bs : Bytes, (∀ b ∈ bs, IsBlankOctet b) → bs.all isPlainOctet = true := by
    intro bs hbs
    refine List.all_eq_true.mpr fun b hb => ?_
    rcases hbs b hb with rfl | rfl
    · decide
    · decide
  simp [hblank front hfront, hblank back hback]

theorem PaddedMember.trim_eq {p q : Bytes} (h : PaddedMember p q) :
    trim (characters p) = trim (characters q) := by
  obtain ⟨front, back, hfront, hback, rfl⟩ := h
  have hblank : ∀ bs : Bytes, (∀ b ∈ bs, IsBlankOctet b) →
      ∀ c ∈ characters bs, isBlank c = true := by
    intro bs hbs c hc
    obtain ⟨b, hb, rfl⟩ := List.mem_map.mp hc
    rcases hbs b hb with rfl | rfl
    · decide
    · decide
  have hcs : characters (front ++ p ++ back) =
      characters front ++ characters p ++ characters back := by simp [characters]
  rw [hcs, trim_surrounded (hblank front hfront) (hblank back hback)]

theorem Padded.members_eq (h : Padded v w) : members v = members w := by
  have hparts : ∀ {ps qs : List Bytes}, List.Forall₂ PaddedMember ps qs →
      ps.all (·.all isPlainOctet) = qs.all (·.all isPlainOctet) ∧
      (ps.map characters).map trim = (qs.map characters).map trim := by
    intro ps qs hpadded
    induction hpadded with
    | nil => exact ⟨rfl, rfl⟩
    | cons hp _ ih => simp only [List.all_cons, List.map_cons, hp.all_plain, hp.trim_eq, ih,
        and_self]
  obtain ⟨hplain, htexts⟩ := hparts h
  have hmembers : ∀ u : Bytes, members u = if (u.splitOn comma).all (·.all isPlainOctet) then
      (((u.splitOn comma).map characters).map trim).map lowerAscii else [] := by
    intro u
    unfold members textMembers
    rw [all_splitOn, splitOn_characters, List.map_map, List.map_map, List.map_map]
    rfl
  rw [hmembers v, hmembers w, hplain, htexts]

/-! ## Letters -/

/-- An ASCII capital as its small letter; any other octet as itself. -/
def lowerOctet (b : UInt8) : UInt8 := if 0x41 ≤ b ∧ b ≤ 0x5A then b + 0x20 else b

/-- Do two values differ in the case of ASCII letters alone? -/
def SameLetters (v w : Bytes) : Prop := v.map lowerOctet = w.map lowerOctet

instance (v w : Bytes) : Decidable (SameLetters v w) := inferInstanceAs (Decidable (_ = _))

theorem lowerOctet_spec : ∀ b : UInt8, isPlainOctet (lowerOctet b) = isPlainOctet b ∧
    Char.ofNat (lowerOctet b).toNat = (Char.ofNat b.toNat).toLower :=
  forall_octet (by decide +kernel)

theorem characters_lower (v : Bytes) :
    characters (v.map lowerOctet) = lowerAscii (characters v) := by
  simp [characters, lowerAscii, (lowerOctet_spec _).2]

theorem all_plain_lower (v : Bytes) :
    (v.map lowerOctet).all isPlainOctet = v.all isPlainOctet := by
  simp [List.all_map, Function.comp_def, (lowerOctet_spec _).1]

/-- Members are told by the small letters of their text. -/
theorem textMembers_lower (cs : List Char) :
    textMembers (lowerAscii cs) = textMembers cs := by
  unfold textMembers
  rw [splitOn_lowerAscii (by decide), List.map_map]
  refine List.map_congr_left fun part _ => ?_
  rw [Function.comp_apply, trim_lowerAscii, lowerAscii_lowerAscii]

theorem SameLetters.members_eq (h : SameLetters v w) : members v = members w := by
  have hlower : ∀ u : Bytes, members (u.map lowerOctet) = members u := by
    intro u
    unfold members
    rw [all_plain_lower, characters_lower, textMembers_lower]
  rw [← hlower v, h, hlower w]

/-! ## Rewritten values -/

/-- One way to write the values of a name anew. -/
inductive Rewrite : List Bytes → List Bytes → Prop
  /-- The values in another order. -/
  | reorder {vs ws : List Bytes} (h : vs.Perm ws) : Rewrite vs ws
  /-- Two values of plain text as one, with a comma between them. -/
  | join (front between back : List Bytes) {v w : Bytes} (hv : v.all isPlainOctet = true)
      (hw : w.all isPlainOctet = true) :
      Rewrite (front ++ v :: between ++ w :: back) (front ++ (v ++ comma :: w) :: between ++ back)
  /-- A value of plain text as two, cut at one of its commas. -/
  | split (front back : List Bytes) {v w : Bytes} (h : (v ++ comma :: w).all isPlainOctet = true) :
      Rewrite (front ++ (v ++ comma :: w) :: back) (front ++ v :: w :: back)
  /-- A value with more spaces and tabs around its members. -/
  | pad (front back : List Bytes) {v w : Bytes} (h : Padded v w) :
      Rewrite (front ++ v :: back) (front ++ w :: back)
  /-- A value with letters in another case. -/
  | recase (front back : List Bytes) {v w : Bytes} (h : SameLetters v w) :
      Rewrite (front ++ v :: back) (front ++ w :: back)

/-- Any number of rewritings, one after the other. -/
def Rewritten : List Bytes → List Bytes → Prop := Relation.ReflTransGen Rewrite

/-- No rewriting adds a member or takes one away. -/
theorem Rewrite.mem_members (h : Rewrite vs ws) (m : List Char) :
    m ∈ vs.flatMap members ↔ m ∈ ws.flatMap members := by
  cases h with
  | reorder h => exact (h.flatMap_right members).mem_iff
  | join front between back hv hw =>
    simp only [List.flatMap_append, List.flatMap_cons, List.mem_append,
      members_comma (plain_join hv hw)]
    tauto
  | split front back h =>
    simp only [List.flatMap_append, List.flatMap_cons, List.mem_append, members_comma h]
    tauto
  | pad front back h => simp only [List.flatMap_append, List.flatMap_cons, h.members_eq]
  | recase front back h => simp only [List.flatMap_append, List.flatMap_cons, h.members_eq]

theorem Rewritten.mem_members (h : Rewritten vs ws) (m : List Char) :
    m ∈ vs.flatMap members ↔ m ∈ ws.flatMap members := by
  induction h with
  | refl => rfl
  | tail _ hstep ih => exact ih.trans (hstep.mem_members m)

/-- A token is found in rewritten values when it was before, whatever the case of its letters. -/
theorem hasToken_rewritten (h : Rewritten (Headers.values name hs) (Headers.values name hs'))
    (htoken : sameIgnoringCase token.toList token'.toList = true) :
    Headers.hasToken name token hs = Headers.hasToken name token' hs' := by
  have heq : lowerAscii token.toList = lowerAscii token'.toList := eq_of_beq htoken
  rw [Bool.eq_iff_iff, hasToken_iff, hasToken_iff, heq]
  exact h.mem_members _

/-- Whether a token is in the list that the fields of a name write does not depend on how they write
it: the values in any order, values of plain text joined by commas or split at them, spaces and tabs
around members, letters of either case, in the token as well. So a request whose `Upgrade` and
`Connection` fields are rewritten in these ways, all others left as they are, asks for a channel
with the same key or for none; and a reply with its `Connection` fields rewritten ends its
connection just when it did. -/
theorem rewritten_lists_read_alike :
    (∀ (name token token' : String) (hs hs' : Headers),
      Rewritten (Headers.values name hs) (Headers.values name hs') →
      sameIgnoringCase token.toList token'.toList = true →
      Headers.hasToken name token hs = Headers.hasToken name token' hs') ∧
    (∀ (method : String) (hs hs' : Headers),
      Rewritten (Headers.values "upgrade" hs) (Headers.values "upgrade" hs') →
      Rewritten (Headers.values "connection" hs) (Headers.values "connection" hs') →
      (∀ name, lowerName name ∉ ["upgrade", "connection"] →
        Headers.values name hs = Headers.values name hs') →
      channelKey? method hs = channelKey? method hs') ∧
    ∀ r r' : Reply,
      Rewritten (Headers.values "connection" r.headers) (Headers.values "connection" r'.headers) →
      r.closes = r'.closes := by
  refine ⟨fun _ _ _ _ _ h htoken => hasToken_rewritten h htoken, ?_, ?_⟩
  · intro method hs hs' hupgrade hconnection hothers
    have htext : ∀ name, lowerName name ∉ ["upgrade", "connection"] →
        Headers.text? name hs = Headers.text? name hs' := by
      intro name hname
      unfold Headers.text?
      rw [hothers name hname]
    have hchannel : Headers.hasToken "upgrade" "websocket" hs =
        Headers.hasToken "upgrade" "websocket" hs' := hasToken_rewritten hupgrade (by decide)
    have hswitch : Headers.hasToken "connection" "upgrade" hs =
        Headers.hasToken "connection" "upgrade" hs' := hasToken_rewritten hconnection (by decide)
    unfold channelKey?
    rw [hchannel, hswitch, htext "sec-websocket-version" (by decide),
      htext "sec-websocket-key" (by decide)]
  · intro r r' h
    exact hasToken_rewritten h (by decide)

/-- A version and a key, as a request for a channel gives them. -/
def versionAndKey : Headers :=
  [⟨"sec-websocket-version", utf8 "13"⟩, ⟨"sec-websocket-key", utf8 "dGhlIHNhbXBsZSBub25jZQ=="⟩]

/-- A request for a channel, with its connection's tokens in fields of their own. -/
def oneByOne : Headers :=
  [⟨"upgrade", utf8 "websocket"⟩, ⟨"connection", utf8 "keep-alive"⟩,
    ⟨"connection", utf8 "Upgrade"⟩] ++ versionAndKey

/-- The same request with its lists written in another way. -/
def allTogether : Headers :=
  [⟨"connection", utf8 "upgrade \t,keep-alive"⟩, ⟨"upgrade", utf8 "WebSocket"⟩] ++ versionAndKey

theorem upgrade_rewritten :
    Rewritten (Headers.values "upgrade" oneByOne) (Headers.values "upgrade" allTogether) :=
  .single (.recase [] [] (v := utf8 "websocket") (w := utf8 "WebSocket") (by decide))

theorem connection_rewritten :
    Rewritten (Headers.values "connection" oneByOne) (Headers.values "connection" allTogether) := by
  have hreorder : Rewrite [utf8 "keep-alive", utf8 "Upgrade"] [utf8 "Upgrade", utf8 "keep-alive"] :=
    .reorder (.swap _ _ _)
  have hjoin : Rewrite [utf8 "Upgrade", utf8 "keep-alive"] [utf8 "Upgrade,keep-alive"] :=
    .join [] [] [] (by decide) (by decide)
  have hpadded : Padded (utf8 "Upgrade,keep-alive") (utf8 "Upgrade \t,keep-alive") := by
    refine .cons ⟨[], [0x20, 0x09], nofun, by simp [IsBlankOctet], rfl⟩
      (.cons ⟨[], [], nofun, nofun, rfl⟩ .nil)
  have hpad : Rewrite [utf8 "Upgrade,keep-alive"] [utf8 "Upgrade \t,keep-alive"] :=
    .pad [] [] hpadded
  have hrecase : Rewrite [utf8 "Upgrade \t,keep-alive"] [utf8 "upgrade \t,keep-alive"] :=
    .recase [] [] (by decide)
  exact .head hreorder (.head hjoin (.head hpad (.single hrecase)))

theorem others_untouched (name : String) (h : lowerName name ∉ ["upgrade", "connection"]) :
    Headers.values name oneByOne = Headers.values name allTogether := by
  simp only [List.mem_cons, List.not_mem_nil, or_false, not_or] at h
  simp [Headers.values, oneByOne, allTogether, Ne.symm h.1, Ne.symm h.2]

theorem allTogether_reads_alike :
    (Rewritten (Headers.values "connection" oneByOne) (Headers.values "connection" allTogether) ∧
      Headers.hasToken "connection" "UPGRADE" oneByOne = true ∧
      Headers.hasToken "connection" "UPGRADE" oneByOne =
        Headers.hasToken "connection" "upgrade" allTogether) ∧
    (channelKey? "GET" oneByOne = some "dGhlIHNhbXBsZSBub25jZQ==" ∧
      channelKey? "GET" oneByOne = channelKey? "GET" allTogether) ∧
    Reply.closes { status := 200, headers := oneByOne, body := [] } =
      Reply.closes { status := 200, headers := allTogether, body := [] } := by
  obtain ⟨htoken, hkey, hcloses⟩ := rewritten_lists_read_alike
  exact ⟨⟨connection_rewritten, by decide,
      htoken _ _ _ _ _ connection_rewritten (by decide)⟩,
    ⟨by decide, hkey _ _ _ upgrade_rewritten connection_rewritten others_untouched⟩,
    hcloses _ _ connection_rewritten⟩

/-- A value that is not plain text is passed over, commas and all; split at a comma it has a part
that is plain text, and the token in it is found. -/
theorem split_frees_member :
    let whole : Headers := [⟨"connection", utf8 "upgrade" ++ comma :: [0xFF]⟩]
    let cut : Headers := [⟨"connection", utf8 "upgrade"⟩, ⟨"connection", [0xFF]⟩]
    (∀ b ∈ utf8 "upgrade" ++ comma :: [0xFF], isValueOctet b = true) ∧
      Headers.values "connection" whole = [utf8 "upgrade" ++ comma :: [0xFF]] ∧
      Headers.values "connection" cut = [utf8 "upgrade", [0xFF]] ∧
      Headers.hasToken "connection" "upgrade" whole = false ∧
      Headers.hasToken "connection" "upgrade" cut = true := by
  decide +kernel

end DeviceGateway.Http
