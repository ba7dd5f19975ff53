import DeviceGateway.Bytes
import DeviceGateway.Proofs.Text.Utf8
import DeviceGateway.Proofs.Toml.Numbers

/-
  The octets of characters, and of the digits of numbers: a digit's octet is a digit of the same
  value (`octet_digit`), so the octets of digits write the same number (`octets_digits`), and the
  digits that a number is written with write it (`continued_toDigits`).
-/

namespace DeviceGateway.Json

open Toml (digitNumber ofDigits)

variable {c : Char} {cs : List Char} {n : Nat}

/-- The octets of characters. -/
def octets (cs : List Char) : Bytes := cs.flatMap String.utf8EncodeChar

theorem octets_append (cs ds : List Char) : octets (cs ++ ds) = octets cs ++ octets ds :=
  List.flatMap_append

theorem octets_cons (c : Char) (cs : List Char) :
    octets (c :: cs) = String.utf8EncodeChar c ++ octets cs := List.flatMap_cons

theorem utf8EncodeChar_ascii (h : c.toNat < 128) :
    String.utf8EncodeChar c = [UInt8.ofNat c.toNat] := by
  have hone := Utf8.encode_one h
  rw [Char.ofNat_toNat] at hone
  exact hone

/-! ## Digits -/

/-- The octet of a decimal digit. -/
theorem octet_digit (h : c.isDigit = true) :
    String.utf8EncodeChar c = [UInt8.ofNat c.toNat] ∧
      isDigitOctet (UInt8.ofNat c.toNat) = true ∧
      digitValue (UInt8.ofNat c.toNat) = digitNumber c ∧
      (c ≠ '0' → UInt8.ofNat c.toNat ≠ 0x30) := by
  have hrange : 48 ≤ c.toNat ∧ c.toNat < 58 := by
    simpa [Char.isDigit, UInt32.le_iff_toNat_le, Nat.lt_succ_iff] using h
  have hall : ∀ k < 58, 48 ≤ k → isDigitOctet (UInt8.ofNat k) = true ∧
      digitValue (UInt8.ofNat k) = k - 48 ∧
      (Char.ofNat k ≠ '0' → UInt8.ofNat k ≠ 0x30) := by decide
  have hdigit := hall c.toNat hrange.2 hrange.1
  rw [Char.ofNat_toNat] at hdigit
  exact ⟨utf8EncodeChar_ascii (by omega), hdigit⟩

/-- The number that digits write behind the digits of another one. -/
def continued (n : Nat) (cs : List Char) : Nat := cs.foldl (fun n c => n * 10 + digitNumber c) n

/-- The octets of digits are digits, and they write the same number. -/
theorem octets_digits (h : ∀ c ∈ cs, c.isDigit = true) (n : Nat) :
    (∀ b ∈ octets cs, isDigitOctet b = true) ∧
      (octets cs).foldl (fun n b => n * 10 + digitValue b) n = continued n cs := by
  induction cs generalizing n with
  | nil => exact ⟨List.forall_mem_nil _, rfl⟩
  | cons c cs ih =>
    obtain ⟨hc, hcs⟩ := List.forall_mem_cons.mp h
    obtain ⟨hoctet, hdigit, hvalue, -⟩ := octet_digit hc
    obtain ⟨hmore, hwritten⟩ := ih hcs (n * 10 + digitNumber c)
    rw [octets_cons, hoctet, List.singleton_append]
    refine ⟨List.forall_mem_cons.mpr ⟨hdigit, hmore⟩, ?_⟩
    rw [List.foldl_cons, hvalue]
    exact hwritten

theorem continued_toDigits (n : Nat) : continued 0 (Nat.toDigits 10 n) = n := by
  have hvalue := Toml.ofDigits_toDigits n
  unfold ofDigits at hvalue
  rw [List.foldl_map] at hvalue
  exact hvalue

end DeviceGateway.Json
