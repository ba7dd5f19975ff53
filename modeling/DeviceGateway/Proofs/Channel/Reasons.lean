import DeviceGateway.Channel.Close
import DeviceGateway.Proofs.Channel.Reception
import DeviceGateway.Proofs.Text.Boundary

/-
  The reasons of close frames. A close frame holds the longest front of its reason that fits
  (`closeReason?_longest`), so the reason for a refusal says that it is one (`refused_refuses`); and
  every close frame with a reason that fits is read as it was meant (`Close.readable`).
-/

namespace DeviceGateway.Channel

/-! ## Short frames -/

namespace Frame

theorem header?_outgoing {payload : Bytes} (h : payload.length < 126) (opcode : Opcode) :
    header? (outgoing opcode payload) =
      some (128 + opcode.toNat, payload.length, none, payload) := by
  have hnat : (UInt8.ofNat payload.length).toNat = payload.length := by
    rw [UInt8.toNat_ofNat']
    omega
  have hflags : (UInt8.ofNat (128 + opcode.toNat)).toNat = 128 + opcode.toNat := by
    cases opcode <;> rfl
  have hoctets : outgoing opcode payload =
      UInt8.ofNat (128 + opcode.toNat) :: UInt8.ofNat payload.length :: payload := by
    unfold outgoing encode head
    simp only [Bool.false_eq_true, if_false, if_pos h, Nat.zero_add, List.cons_append,
      List.nil_append]
  have hlength : length? (UInt8.ofNat payload.length) payload =
      some (payload.length, payload) := by
    have hplain : payload.length % 128 = payload.length := by omega
    unfold length?
    rw [hnat, hplain]
    dsimp only
    rw [if_neg (show payload.length ≠ 126 by omega), if_neg (show payload.length ≠ 127 by omega)]
    rfl
  have hmask : mask? (UInt8.ofNat payload.length) payload = some (none, payload) := by
    have hunmasked : UInt8.ofNat payload.length < 128 := by
      rw [UInt8.lt_iff_toNat_lt, hnat]
      exact Nat.lt_trans h (by decide)
    unfold mask?
    rw [if_pos hunmasked]
  rw [hoctets]
  unfold header?
  dsimp only
  rw [hlength, Option.bind_eq_bind, Option.bind_some]
  dsimp only
  rw [hmask, Option.bind_eq_bind, Option.bind_some, hflags]
  rfl

/-- A frame whose length takes one octet is read as it was sent. -/
theorem take_outgoing {payload : Bytes} (h : payload.length < 126) (opcode : Opcode)
    (more : Bytes) :
    take (outgoing opcode payload ++ more) =
      .ok (some ({ opcode, payload }, more)) := by
  have hopcode : Opcode.ofNat? ((128 + opcode.toNat) % 16) = some opcode := by
    cases opcode <;> rfl
  have hreserved : (128 + opcode.toNat) / 16 % 8 = 0 := by
    cases opcode <;> rfl
  have hbound : ¬ maxMessageBytes < payload.length := by
    have hmax : maxMessageBytes = 1048576 := rfl
    omega
  have htake : take (outgoing opcode payload) =
      .ok (some ({ opcode, payload }, [])) := by
    unfold take
    rw [header?_outgoing h opcode]
    simp [hopcode, hreserved, hbound, split?]
  rw [take_append htake, List.nil_append]

end Frame

/-! ## Reasons -/

/-- A close frame holds the longest front of a reason that fits. -/
theorem closeReason?_longest (reason : String) : ∃ t, closeReason? reason = some t ∧
    Utf8.LongestFront maxReasonBytes reason t := by
  unfold closeReason?
  dsimp only
  split
  · next hfits => exact ⟨reason, rfl, Utf8.longestFront_self hfits⟩
  · obtain ⟨k, hlast, -⟩ := Utf8.exists_lastBoundary (utf8 reason) maxReasonBytes
    rw [hlast, Option.bind_some]
    exact Utf8.longestFront_of_lastBoundary hlast

namespace Close

/-- Is a close frame read as it was meant, whatever follows it? -/
structure Readable (k : Close) : Prop where
  fits : (utf8 k.reason).length ≤ maxReasonBytes
  framed : ∀ more, Frame.take (Frame.outgoing .close k.payload ++ more) =
    .ok (some ({ opcode := .close, payload := k.payload }, more))
  accepted : controlMessage { opcode := .close, payload := k.payload } = .ok .close
  code_eq : ofBigEndian (k.payload.take 2) = k.code
  reason_eq : Utf8.decode? (k.payload.drop 2) = some k.reason

theorem readable {k : Close} (hcode : k.code < 65536)
    (hfits : (utf8 k.reason).length ≤ maxReasonBytes) : k.Readable := by
  have hmax : maxReasonBytes = 123 := rfl
  have hpayload : k.payload =
      UInt8.ofNat (k.code / 256 % 256) :: UInt8.ofNat (k.code % 256) :: utf8 k.reason := rfl
  have hlength : k.payload.length = (utf8 k.reason).length + 2 := by rw [hpayload]; rfl
  refine ⟨hfits, Frame.take_outgoing (by omega) .close, ?_, ?_, ?_⟩
  · have hclose : closePayload k.payload = .ok () := by
      rw [hpayload]
      simp [closePayload, Utf8.decode_utf8]
    unfold controlMessage
    dsimp only
    rw [if_neg (by decide), if_neg (by omega), hclose]
    rfl
  · rw [hpayload]
    simp [ofBigEndian]
    omega
  · rw [hpayload]
    exact Utf8.decode_utf8 k.reason

/-- Does a close frame refuse a message, and say so for this reason as far as it fits? -/
structure Refuses (k : Close) (why : String) : Prop where
  code_eq : k.code = 1007
  longest : Utf8.LongestFront maxReasonBytes (badPayload ++ ": " ++ why) k.reason
  begins : ∃ rest, k.reason = badPayload ++ rest

theorem Refuses.readable {k : Close} {why : String} (h : k.Refuses why) : k.Readable :=
  Close.readable (by rw [h.code_eq]; decide) h.longest.fits

end Close

/-- A refusal says that it is one, for there is room for more than that. -/
theorem refused_refuses (why : String) : (Close.refused why).Refuses why := by
  obtain ⟨t, ht, hlongest⟩ := closeReason?_longest (badPayload ++ ": " ++ why)
  have hreason : (Close.refused why).reason = t := Option.get_of_eq_some _ ht
  rw [← hreason] at hlongest
  refine ⟨rfl, hlongest, hlongest.longest badPayload (": " ++ why) ?_ (by decide)⟩
  rw [String.append_assoc]

end DeviceGateway.Channel
