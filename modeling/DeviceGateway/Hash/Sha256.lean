import DeviceGateway.Hash.Padding

/-
  SHA-256. A discovery reply proves that its query was read by carrying the query's SHA-256.
-/

namespace DeviceGateway.Hash.Sha256

/-- The eight words between blocks. -/
structure State where
  a : UInt32
  b : UInt32
  c : UInt32
  d : UInt32
  e : UInt32
  f : UInt32
  g : UInt32
  h : UInt32

/-- The words before the first block. -/
def start : State :=
  ⟨0x6A09E667, 0xBB67AE85, 0x3C6EF372, 0xA54FF53A, 0x510E527F, 0x9B05688C, 0x1F83D9AB, 0x5BE0CD19⟩

/-- The round constants. -/
def constants : Array UInt32 := #[
  0x428A2F98, 0x71374491, 0xB5C0FBCF, 0xE9B5DBA5, 0x3956C25B, 0x59F111F1, 0x923F82A4, 0xAB1C5ED5,
  0xD807AA98, 0x12835B01, 0x243185BE, 0x550C7DC3, 0x72BE5D74, 0x80DEB1FE, 0x9BDC06A7, 0xC19BF174,
  0xE49B69C1, 0xEFBE4786, 0x0FC19DC6, 0x240CA1CC, 0x2DE92C6F, 0x4A7484AA, 0x5CB0A9DC, 0x76F988DA,
  0x983E5152, 0xA831C66D, 0xB00327C8, 0xBF597FC7, 0xC6E00BF3, 0xD5A79147, 0x06CA6351, 0x14292967,
  0x27B70A85, 0x2E1B2138, 0x4D2C6DFC, 0x53380D13, 0x650A7354, 0x766A0ABB, 0x81C2C92E, 0x92722C85,
  0xA2BFE8A1, 0xA81A664B, 0xC24B8B70, 0xC76C51A3, 0xD192E819, 0xD6990624, 0xF40E3585, 0x106AA070,
  0x19A4C116, 0x1E376C08, 0x2748774C, 0x34B0BCB5, 0x391C0CB3, 0x4ED8AA4A, 0x5B9CCA4F, 0x682E6FF3,
  0x748F82EE, 0x78A5636F, 0x84C87814, 0x8CC70208, 0x90BEFFFA, 0xA4506CEB, 0xBEF9A3F7, 0xC67178F2]

/-- The sixty-four words of a block: its sixteen, then each from four earlier ones. -/
def schedule (block : Bytes) : Array UInt32 :=
  (List.range 48).foldl
    (fun w _ =>
      let i := w.size
      let x := w.getD (i - 15) 0
      let y := w.getD (i - 2) 0
      let s0 := rotateRight x 7 ^^^ rotateRight x 18 ^^^ (x >>> 3)
      let s1 := rotateRight y 17 ^^^ rotateRight y 19 ^^^ (y >>> 10)
      w.push (w.getD (i - 16) 0 + s0 + w.getD (i - 7) 0 + s1))
    (words block).toArray

/-- One of the sixty-four rounds. -/
def round (w : Array UInt32) (s : State) (i : Nat) : State :=
  let s1 := rotateRight s.e 6 ^^^ rotateRight s.e 11 ^^^ rotateRight s.e 25
  let ch := (s.e &&& s.f) ^^^ ((~~~ s.e) &&& s.g)
  let t1 := s.h + s1 + ch + constants.getD i 0 + w.getD i 0
  let s0 := rotateRight s.a 2 ^^^ rotateRight s.a 13 ^^^ rotateRight s.a 22
  let maj := (s.a &&& s.b) ^^^ (s.a &&& s.c) ^^^ (s.b &&& s.c)
  ⟨t1 + (s0 + maj), s.a, s.b, s.c, s.d + t1, s.e, s.f, s.g⟩

/-- One block. -/
def absorb (s : State) (block : Bytes) : State :=
  let t := (List.range 64).foldl (round (schedule block)) s
  ⟨s.a + t.a, s.b + t.b, s.c + t.c, s.d + t.d, s.e + t.e, s.f + t.f, s.g + t.g, s.h + t.h⟩

end Sha256

/-- The SHA-256 of a message, 32 octets. -/
def sha256 (message : Bytes) : Bytes :=
  let s := (blocks (padded message)).foldl Sha256.absorb Sha256.start
  octets [s.a, s.b, s.c, s.d, s.e, s.f, s.g, s.h]

end DeviceGateway.Hash
