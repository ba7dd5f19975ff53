import DeviceGateway.Gateway.Routes
import DeviceGateway.Http.Wire
import DeviceGateway.Proofs.Binary.Base64
import DeviceGateway.Proofs.Json.Octets

/-
  Which statuses go out. The octets of a reply announce its status, unless that is an interim one
  that can answer nothing (`announced_outgoing`). Whatever its key is, a request for a channel that
  is granted gets 101 (`switching_status`), and no other reply of a gateway with its own resources
  does (`Gateway.route_status`, `Gateway.serveResource_status`).
-/

namespace DeviceGateway

open Http (Head Reply)

/-! ## Status lines -/

namespace Http

/-- The number at the front of octets. -/
def digitsValue (bs : Bytes) : Nat :=
  (bs.takeWhile isDigitOctet).foldl (fun n b => n * 10 + digitValue b) 0

/-- The status that the octets of a reply announce, behind the version. -/
def announced (octets : Bytes) : Nat := digitsValue (octets.drop 9)

/-- The digits of a number are read as the number, up to a blank. -/
theorem digitsValue_toString (n : Nat) (rest : Bytes) :
    digitsValue (utf8 (toString n) ++ 0x20 :: rest) = n := by
  have htext : utf8 (toString n) = Json.octets (Nat.toDigits 10 n) := by
    unfold utf8 Json.octets
    exact congrArg _ Nat.toList_repr
  obtain ⟨hdigits, hwritten⟩ := Json.octets_digits (Toml.isDigit_toDigits n) 0
  have hblank : ¬ isDigitOctet 0x20 = true := by decide
  unfold digitsValue
  rw [htext, List.takeWhile_append_of_pos hdigits, List.takeWhile_cons_of_neg hblank,
    List.append_nil, hwritten, Json.continued_toDigits]

/-- The octets of a reply announce its status. -/
theorem announced_encode (r : Reply) (s : Sending) : announced (r.encode s).octets = r.status := by
  have hdrop : ∀ (v : Version) (bs : Bytes), (utf8 v.name ++ utf8 " " ++ bs).drop 9 = bs := by
    intro v bs
    cases v <;> rfl
  have hblank : ∀ bs : Bytes, utf8 " " ++ bs = 0x20 :: bs := fun _ => rfl
  unfold announced Reply.encode
  simp only [utf8_append, List.append_assoc]
  rw [← List.append_assoc, hdrop, hblank, digitsValue_toString]

/-- What goes out announces the status of the reply, but in place of an interim status a failure. -/
theorem announced_outgoing (r : Reply) (s : Sending) : announced (r.outgoing s).octets =
    if isInterim r.status && r.status ≠ 101 then 500 else r.status := by
  unfold Reply.outgoing
  split
  · exact announced_encode _ _
  · exact announced_encode _ _

/-- A change of protocol is announced for none but such a reply. -/
theorem announced_switching (r : Reply) (s : Sending) :
    announced (r.outgoing s).octets = 101 ↔ r.status = 101 := by
  rw [announced_outgoing]
  split
  · next hinterim =>
    have hother : r.status ≠ 101 := by
      rw [Bool.and_eq_true, decide_eq_true_iff] at hinterim
      exact hinterim.2
    exact iff_of_false (by decide) hother
  · exact Iff.rfl

/-- Whatever is encoded, the result may stand in a header. -/
theorem encode_fits (bs : Bytes) :
    ∀ b ∈ Base64.encode bs, isValueOctet b = true ∧ b.toNat < 128 := by
  have hletter : ∀ n < 64,
      isValueOctet (Base64.letter n) = true ∧ (Base64.letter n).toNat < 128 := by decide
  intro b hb
  rcases Base64.mem_encode hb with rfl | ⟨n, hn, rfl⟩
  · decide
  · exact hletter n hn

/-- The reply to a request for a channel never turns into a refusal for the sake of its key. -/
theorem switching_status (key : String) : (Reply.switching (acceptKey key)).status = 101 := by
  have hfits := encode_fits (Hash.sha1 (utf8 (key ++ channelSalt)))
  have hutf8 : utf8 (acceptKey key) = Base64.encode (Hash.sha1 (utf8 (key ++ channelSalt))) :=
    utf8_asciiText fun b hb => (hfits b hb).2
  unfold Reply.switching
  dsimp only
  rw [if_pos]
  rw [hutf8]
  exact List.all_eq_true.mpr fun b hb => (hfits b hb).1

end Http

/-! ## Replies of a gateway -/

namespace Home

/-- The home answers every request that it grants with 200. -/
theorem serve_status {h : Home} {who : Principal} {q : ResourceRequest} {r : ResourceReply}
    (hserve : (h.serve who q).2 = .ok r) : r.status = 200 := by
  unfold serve at hserve
  split at hserve
  · split at hserve <;> cases hserve
    rfl
  · split at hserve
    · split at hserve <;> cases hserve
      rfl
    · split at hserve
      · split at hserve
        · cases hserve
        · split at hserve <;> cases hserve
          rfl
      · cases hserve
  · cases hserve
  · cases hserve

end Home

namespace Gateway

variable {g : Gateway}

/-- A reply that leaves its connection as it is says that there is something, that there is nothing,
or that the request was wrong. -/
theorem route_status {now : Nat} {head : Head} {r : Reply} (h : (g.route now head).2 = .reply r) :
    r.status = 200 ∨ r.status = 400 ∨ r.status = 404 := by
  have herror : ∀ message : String, (Reply.error message).status = 400 := fun _ => rfl
  have hissue : ∀ (g : Gateway) (owner : Principal), (g.issueToken now owner).2.status = 200 ∨
      (g.issueToken now owner).2.status = 400 ∨ (g.issueToken now owner).2.status = 404 := by
    intro g owner
    unfold issueToken
    split
    · exact Or.inl rfl
    · exact Or.inr (Or.inl (herror authFailed))
  unfold route at h
  split at h
  · split at h <;> cases h
    exact Or.inr (Or.inl (herror authFailed))
  · split at h
    · cases h
      exact Or.inr (Or.inl (herror authFailed))
    · cases h
      exact hissue _ _
  · split at h
    · cases h
      exact Or.inr (Or.inl (herror _))
    · split at h <;> cases h
      exact Or.inr (Or.inl (herror authFailed))
  · cases h
    exact Or.inl rfl
  · cases h
    exact Or.inl rfl
  · cases h
    unfold asset
    dsimp only
    split
    · exact Or.inl rfl
    · exact Or.inr (Or.inr rfl)

/-- A channel is granted with 101, to whom the credentials of the request stand for. -/
theorem route_channel {now : Nat} {head : Head} {owner : Principal} {r : Reply}
    (h : (g.route now head).2 = .channel owner r) :
    r.status = 101 ∧ (g.authenticate now head).2 = some owner := by
  unfold route at h
  split at h
  · split at h <;> cases h
  · split at h <;> cases h
  · split at h
    · cases h
    · next key _ =>
      split at h
      · cases h
      · next hauth =>
        cases h
        rw [hauth]
        exact ⟨Http.switching_status key, rfl⟩
  · cases h
  · cases h
  · cases h

/-- The home's resources are served with 200, or refused with 400. -/
theorem serveResource_status (hg : g.resources = .home) (owner : Principal) (head : Head)
    (body : Bytes) :
    (g.serveResource owner head body).2.status = 200 ∨
      (g.serveResource owner head body).2.status = 400 := by
  unfold serveResource
  rw [hg]
  dsimp only [Resources.serve]
  split
  · exact Or.inr rfl
  · next r hserve =>
    rw [Home.serve_status hserve]
    split
    · exact Or.inl rfl
    · exact Or.inl rfl

end Gateway

end DeviceGateway
