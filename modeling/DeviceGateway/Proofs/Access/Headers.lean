import DeviceGateway.Access.Authorization
import DeviceGateway.Proofs.Access.Entitled
import DeviceGateway.Proofs.Access.TokenTable
import DeviceGateway.Proofs.Binary.Base64
import DeviceGateway.Proofs.Text.Parts
import DeviceGateway.Proofs.Text.Utf8

/-
  Which headers are accepted. What a header claims can be told from its parts alone: a payload is a
  token's text, or it is the Base64 of a name without colons, a colon and a password, in no other
  writing than the one that writing gives (`Claim.ofHeader_eq_ok_iff`). A store takes just the
  claims that its tokens and its accounts bear out (`Credentials.accepted_headers`).
-/

namespace DeviceGateway

open Text (trim isBlank sameIgnoringCase lowerAscii splitOnce)

variable {header name password : String} {scheme payload : List Char}

/-! ## Accounts -/

/-- Is the account the last one of its name? -/
def Account.IsLast (accounts : List Account) (a : Account) : Prop :=
  ∃ before after, accounts = before ++ a :: after ∧ ∀ b ∈ after, b.name ≠ a.name

theorem Account.find?_eq_some_iff {accounts : List Account} {a : Account} :
    Account.find? accounts name = some a ↔ a.IsLast accounts ∧ a.name = name := by
  constructor
  · intro h
    obtain ⟨before, after, hsplit, rfl, hlast⟩ := Account.find?_eq_some h
    exact ⟨⟨before, after, hsplit, hlast⟩, rfl⟩
  · rintro ⟨⟨before, after, hsplit, hlast⟩, rfl⟩
    have hafter : after.filter (·.name = a.name) = [] :=
      List.filter_eq_nil_iff.mpr fun b hb => by simpa using hlast b hb
    unfold Account.find?
    rw [hsplit, List.filter_append, List.filter_cons_of_pos (by simp), hafter, List.getLast?_concat]

theorem Credentials.verifyPassword_eq_ok {c : Credentials} {p : Principal} :
    c.verifyPassword name password = .ok p ↔
      ∃ a : Account, a.IsLast c.accounts ∧ a.name = name ∧ a.password = password ∧
        p = ⟨name, a.level⟩ := by
  unfold Credentials.verifyPassword
  constructor
  · intro h
    split at h
    · next a hfind =>
      obtain ⟨hlast, hname⟩ := Account.find?_eq_some_iff.mp hfind
      split at h
      · next hpassword =>
        cases h
        exact ⟨a, hlast, hname, hpassword, rfl⟩
      · cases h
    · cases h
  · rintro ⟨a, hlast, hname, hpassword, rfl⟩
    rw [Account.find?_eq_some_iff.mpr ⟨hlast, hname⟩]
    exact if_pos hpassword

/-! ## Payloads -/

/-- Is the payload the Base64 of a name without colons, a colon and a password? -/
def WritesPassword (payload : List Char) (name password : String) : Prop :=
  ':' ∉ name.toList ∧
    utf8 (String.ofList payload) = Base64.encode (utf8 (name ++ ":" ++ password))

/-- A payload is read just when it is the Base64 of a name, a colon and a password. -/
theorem basicClaim?_eq_some_iff {claim : Claim} : basicClaim? payload = some claim ↔
    ∃ name password, claim = .password name password ∧ WritesPassword payload name password := by
  constructor
  · intro h
    obtain ⟨octets, hoctets, hrest⟩ := Option.bind_eq_some_iff.mp h
    obtain ⟨text, htext, hlast⟩ := Option.bind_eq_some_iff.mp hrest
    obtain ⟨⟨front, behind⟩, hsplit, hclaim⟩ := Option.bind_eq_some_iff.mp hlast
    obtain ⟨hall, hnone⟩ := Text.splitOnce_eq_some_iff.mp hsplit
    rw [Base64.decode?_eq_some_iff, Utf8.decode?_eq_some_iff.mp htext] at hoctets
    have hparts : text = String.ofList front ++ ":" ++ String.ofList behind := by
      rw [← String.toList_inj, hall]
      simp
    refine ⟨String.ofList front, String.ofList behind, (Option.some.inj hclaim).symm, ?_, ?_⟩
    · rw [String.toList_ofList]
      exact hnone
    · rw [← hparts]
      exact hoctets
  · rintro ⟨name, password, rfl, hnone, hoctets⟩
    have hsplit : splitOnce ':' (name ++ ":" ++ password).toList =
        some (name.toList, password.toList) := by
      rw [Text.splitOnce_eq_some_iff]
      exact ⟨by simp, hnone⟩
    unfold basicClaim?
    rw [Base64.decode?_eq_some_iff.mpr hoctets, Option.bind_eq_bind, Option.bind_some,
      Utf8.decode_utf8, Option.bind_eq_bind, Option.bind_some, hsplit]
    show some (Claim.password (String.ofList name.toList) (String.ofList password.toList)) = _
    rw [String.ofList_toList, String.ofList_toList]

/-! ## Headers -/

/-- Is the header, but for blanks around it, a scheme without spaces, a space and the payload with
any blanks around it? -/
def HeaderParts (header : String) (scheme payload : List Char) : Prop :=
  ∃ rest, trim header.toList = scheme ++ ' ' :: rest ∧ ' ' ∉ scheme ∧ payload = trim rest

/-- A payload is never empty, since the blank before it is not at the header's end. -/
theorem HeaderParts.payload_ne_nil (h : HeaderParts header scheme payload) : payload ≠ [] := by
  obtain ⟨rest, hall, -, rfl⟩ := h
  exact Text.trim_ne_nil_of_trim (by decide) hall

theorem not_bearer_of_basic (h : sameIgnoringCase scheme "Basic".toList = true) :
    ¬ sameIgnoringCase scheme "Bearer".toList = true := by
  have hlower : lowerAscii scheme = lowerAscii "Basic".toList := eq_of_beq h
  unfold sameIgnoringCase
  rw [hlower]
  decide

/-- What a header with the given parts claims. -/
theorem HeaderParts.ofHeader (h : HeaderParts header scheme payload) :
    Claim.ofHeader (some header) =
      if sameIgnoringCase scheme "Bearer".toList then .ok (.token (String.ofList payload))
      else if sameIgnoringCase scheme "Basic".toList then
        match basicClaim? payload with
        | some claim => .ok claim
        | none => .error .malformed
      else .error .unknownScheme := by
  have hpayload := List.isEmpty_eq_false_iff.mpr h.payload_ne_nil
  obtain ⟨rest, hall, hnone, rfl⟩ := h
  unfold Claim.ofHeader
  dsimp only
  rw [Text.splitOnce_eq_some_iff.mpr ⟨hall, hnone⟩]
  dsimp only
  rw [hpayload]
  rfl

/-- A header claims something just when its parts do. -/
theorem Claim.ofHeader_eq_ok_iff {claim : Claim} : Claim.ofHeader (some header) = .ok claim ↔
    ∃ scheme payload, HeaderParts header scheme payload ∧
      ((sameIgnoringCase scheme "Bearer".toList = true ∧ claim = .token (String.ofList payload)) ∨
        (sameIgnoringCase scheme "Basic".toList = true ∧
          ∃ name password, claim = .password name password ∧
            WritesPassword payload name password)) := by
  constructor
  · intro h
    cases hsplit : splitOnce ' ' (trim header.toList) with
    | none =>
      unfold Claim.ofHeader at h
      dsimp only at h
      rw [hsplit] at h
      cases h
    | some parts =>
      obtain ⟨hall, hnone⟩ := Text.splitOnce_eq_some_iff.mp hsplit
      have hparts : HeaderParts header parts.1 (trim parts.2) := ⟨parts.2, hall, hnone, rfl⟩
      refine ⟨parts.1, trim parts.2, hparts, ?_⟩
      rw [hparts.ofHeader] at h
      split at h
      case isTrue hbearer =>
        cases h
        exact Or.inl ⟨hbearer, rfl⟩
      case isFalse =>
        split at h
        case isTrue hbasic =>
          split at h
          · next hclaim =>
            cases h
            exact Or.inr ⟨hbasic, basicClaim?_eq_some_iff.mp hclaim⟩
          · cases h
        case isFalse => cases h
  · rintro ⟨scheme, payload, hparts, ⟨hbearer, rfl⟩ | ⟨hbasic, hwrites⟩⟩
    · rw [hparts.ofHeader, if_pos hbearer]
    · rw [hparts.ofHeader, if_neg (not_bearer_of_basic hbasic), if_pos hbasic,
        basicClaim?_eq_some_iff.mpr hwrites]

/-! ## Own credentials -/

/-- The payload for a name and a password. -/
def basicPayload (name password : String) : String :=
  asciiText (Base64.encode (utf8 (name ++ ":" ++ password)))

/-- The header for a name and a password. -/
def basicHeader (name password : String) : String := "Basic " ++ basicPayload name password

theorem plain_of_mem_encode {os : Bytes} {b : UInt8} (h : b ∈ Base64.encode os) :
    b.toNat < 128 ∧ isBlank (Char.ofNat b.toNat) = false := by
  have hletter : ∀ n < 64, (Base64.letter n).toNat < 128 ∧
      isBlank (Char.ofNat (Base64.letter n).toNat) = false := by
    decide
  rcases Base64.mem_encode h with rfl | ⟨n, hn, rfl⟩
  · decide
  · exact hletter n hn

theorem isBlank_of_mem_basicPayload {c : Char} (h : c ∈ (basicPayload name password).toList) :
    isBlank c = false := by
  unfold basicPayload asciiText at h
  rw [String.toList_ofList] at h
  obtain ⟨b, hb, rfl⟩ := List.mem_map.mp h
  exact (plain_of_mem_encode hb).2

/-- A name and a password always take a payload, at the least for the colon between them. -/
theorem basicPayload_ne_nil (name password : String) :
    (basicPayload name password).toList ≠ [] := by
  intro hnil
  unfold basicPayload asciiText at hnil
  rw [String.toList_ofList, List.map_eq_nil_iff, Base64.encode_eq_nil_iff] at hnil
  have hempty : name ++ ":" ++ password = "" := utf8_inj hnil
  have hlist := congrArg String.toList hempty
  simp at hlist

/-- The header for a name and a password has the scheme and the payload that it was made of. -/
theorem headerParts_basicHeader (name password : String) :
    HeaderParts (basicHeader name password) "Basic".toList (basicPayload name password).toList := by
  have hplain : ∀ c ∈ (basicPayload name password).toList, isBlank c = false :=
    fun c => isBlank_of_mem_basicPayload
  have hall : (basicHeader name password).toList =
      "Basic".toList ++ ' ' :: (basicPayload name password).toList := by
    unfold basicHeader
    rw [String.toList_append]
    rfl
  refine ⟨(basicPayload name password).toList, ?_, by decide, ?_⟩
  · rw [hall]
    refine Text.trim_eq_self ?_ ?_
    · intro c hc
      obtain rfl := Option.some.inj hc
      decide
    · intro c hc
      rw [List.getLast?_append_cons,
        List.getLast?_cons_of_ne_nil (basicPayload_ne_nil name password)] at hc
      exact hplain c (List.mem_of_getLast? hc)
  · exact (Text.trim_eq_self (fun c hc => hplain c (List.mem_of_head? hc))
      fun c hc => hplain c (List.mem_of_getLast? hc)).symm

theorem writesPassword_basicPayload (h : ':' ∉ name.toList) (password : String) :
    WritesPassword (basicPayload name password).toList name password := by
  refine ⟨h, ?_⟩
  rw [String.ofList_toList]
  exact utf8_asciiText fun b hb => (plain_of_mem_encode hb).1

/-! ## Acceptance -/

/-- Does the store bear out the header's claim to be the principal? -/
def Credentials.BearsOut (c : Credentials) (now : Nat) (scheme payload : List Char)
    (p : Principal) : Prop :=
  (sameIgnoringCase scheme "Bearer".toList = true ∧
    ∃ t ∈ c.tokens, t.text = String.ofList payload ∧ t.owner = p ∧ c.isLive now t = true) ∨
  (sameIgnoringCase scheme "Basic".toList = true ∧
    ∃ name password, WritesPassword payload name password ∧
      ∃ a : Account, a.IsLast c.accounts ∧ a.name = name ∧ a.password = password ∧
        p = ⟨name, a.level⟩)

/-- A header is accepted just when its parts claim what the store bears out. -/
theorem Credentials.authorize_eq_ok_iff {c : Credentials} {now : Nat} {p : Principal}
    (hnodup : (c.tokens.map (·.text)).Nodup) : (c.authorize now (some header)).2 = .ok p ↔
      ∃ scheme payload, HeaderParts header scheme payload ∧ c.BearsOut now scheme payload p := by
  constructor
  · intro h
    unfold Credentials.authorize at h
    split at h
    · cases h
    · next text hclaim =>
      obtain ⟨scheme, payload, hparts, ⟨hbearer, htext⟩ | ⟨-, name, password, hother, -⟩⟩ :=
        Claim.ofHeader_eq_ok_iff.mp hclaim
      · obtain rfl := Claim.token.inj htext
        exact ⟨scheme, payload, hparts,
          Or.inl ⟨hbearer, (Credentials.verifyToken_eq_ok hnodup).mp h⟩⟩
      · cases hother
    · next name password hclaim =>
      obtain ⟨scheme, payload, hparts, ⟨-, hother⟩ | ⟨hbasic, name', password', hsame, hwrites⟩⟩ :=
        Claim.ofHeader_eq_ok_iff.mp hclaim
      · cases hother
      · cases hsame
        exact ⟨scheme, payload, hparts, Or.inr ⟨hbasic, name, password, hwrites,
          Credentials.verifyPassword_eq_ok.mp h⟩⟩
  · rintro ⟨scheme, payload, hparts, ⟨hbearer, htoken⟩ |
      ⟨hbasic, name, password, hwrites, haccount⟩⟩
    · have hclaim := Claim.ofHeader_eq_ok_iff.mpr ⟨scheme, payload, hparts, Or.inl ⟨hbearer, rfl⟩⟩
      unfold Credentials.authorize
      rw [hclaim]
      exact (Credentials.verifyToken_eq_ok hnodup).mpr htoken
    · have hclaim := Claim.ofHeader_eq_ok_iff.mpr
        ⟨scheme, payload, hparts, Or.inr ⟨hbasic, name, password, rfl, hwrites⟩⟩
      unfold Credentials.authorize
      rw [hclaim]
      exact Credentials.verifyPassword_eq_ok.mpr haccount

/-- A header is accepted just when its parts claim what the store bears out, every account whose
name has no colon gets in with its own credentials, and of all `Basic` payloads only the Base64 of
some text gets as far as the store. -/
theorem Credentials.accepted_headers (c : Credentials) (now : Nat) (header : String)
    (hnodup : (c.tokens.map (·.text)).Nodup) :
    (∀ p, (c.authorize now (some header)).2 = .ok p ↔
      ∃ scheme payload, HeaderParts header scheme payload ∧ c.BearsOut now scheme payload p) ∧
    (∀ a : Account, a.IsLast c.accounts → ':' ∉ a.name.toList →
      c.authorize now (some (basicHeader a.name a.password)) = (c, .ok ⟨a.name, a.level⟩)) ∧
    (∀ name password, Claim.ofHeader (some header) = .ok (.password name password) ↔
      ∃ scheme payload, HeaderParts header scheme payload ∧
        sameIgnoringCase scheme "Basic".toList = true ∧ WritesPassword payload name password) ∧
    (∀ scheme payload, HeaderParts header scheme payload →
      sameIgnoringCase scheme "Basic".toList = true →
      (∀ text, utf8 (String.ofList payload) ≠ Base64.encode (utf8 text)) →
      Claim.ofHeader (some header) = .error .malformed) := by
  refine ⟨fun p => Credentials.authorize_eq_ok_iff hnodup, ?_, ?_, ?_⟩
  · intro a hlast hcolon
    have hclaim := Claim.ofHeader_eq_ok_iff.mpr ⟨_, _, headerParts_basicHeader a.name a.password,
      Or.inr ⟨by decide, a.name, a.password, rfl, writesPassword_basicPayload hcolon a.password⟩⟩
    unfold Credentials.authorize
    rw [hclaim]
    dsimp only
    rw [Credentials.verifyPassword_eq_ok.mpr ⟨a, hlast, rfl, rfl, rfl⟩]
  · intro name password
    rw [Claim.ofHeader_eq_ok_iff]
    constructor
    · rintro ⟨scheme, payload, hparts, ⟨-, hother⟩ | ⟨hbasic, name', password', hsame, hwrites⟩⟩
      · cases hother
      · cases hsame
        exact ⟨scheme, payload, hparts, hbasic, hwrites⟩
    · rintro ⟨scheme, payload, hparts, hbasic, hwrites⟩
      exact ⟨scheme, payload, hparts, Or.inr ⟨hbasic, name, password, rfl, hwrites⟩⟩
  · intro scheme payload hparts hbasic hnot
    have hnone : basicClaim? payload = none := by
      cases hclaim : basicClaim? payload with
      | none => rfl
      | some claim =>
        obtain ⟨name, password, -, -, hwrites⟩ := basicClaim?_eq_some_iff.mp hclaim
        exact absurd hwrites (hnot _)
    rw [hparts.ofHeader, if_neg (not_bearer_of_basic hbasic), if_pos hbasic, hnone]

/-- A store with two accounts of one name and a token. -/
def door : Credentials :=
  { accounts := [{ name := "ann", password := "old" },
      { name := "ann", password := "a:b", level := .admin }]
    tokens := [{ text := "key", owner := ⟨"bob", .guest⟩, issued := 3 }]
    life := 10 }

theorem door_accepts :
    (door.tokens.map (·.text)).Nodup ∧
    (door.authorize 5 (some " bEaReR  key ")).2 = .ok ⟨"bob", .guest⟩ ∧
    door.authorize 5 (some (basicHeader "ann" "a:b")) = (door, .ok ⟨"ann", .admin⟩) ∧
    Claim.ofHeader (some "basic YW5uOmE6Yg==") = .ok (.password "ann" "a:b") := by
  have hnodup : (door.tokens.map (·.text)).Nodup := by decide
  have hkey : HeaderParts " bEaReR  key " "bEaReR".toList "key".toList :=
    ⟨" key".toList, by decide, by decide, by decide⟩
  have hann : HeaderParts "basic YW5uOmE6Yg==" "basic".toList "YW5uOmE6Yg==".toList :=
    ⟨"YW5uOmE6Yg==".toList, by decide, by decide, by decide⟩
  refine ⟨hnodup, ?_, ?_, ?_⟩
  · exact ((Credentials.accepted_headers door 5 " bEaReR  key " hnodup).1 ⟨"bob", .guest⟩).mpr
      ⟨_, _, hkey, Or.inl ⟨by decide, _, List.mem_singleton_self _, by decide, rfl, by decide⟩⟩
  · exact (Credentials.accepted_headers door 5 "" hnodup).2.1
      { name := "ann", password := "a:b", level := .admin }
      ⟨[{ name := "ann", password := "old" }], [], rfl, fun b hb => nomatch hb⟩ (by decide)
  · exact ((Credentials.accepted_headers door 5 "basic YW5uOmE6Yg==" hnodup).2.2.1
      "ann" "a:b").mpr ⟨_, _, hann, by decide, by decide, by decide⟩

end DeviceGateway
