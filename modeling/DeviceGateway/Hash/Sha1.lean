import DeviceGateway.Hash.Padding

/-
  SHA-1. The channel's opening handshake answers with the SHA-1 of the client's key.
-/

namespace DeviceGateway.Hash.Sha1

/-- The five words between blocks. -/
structure State where
  a : UInt32
  b : UInt32
  c : UInt32
  d : UInt32
  e : UInt32

/-- The words before the first block. -/
def start : State := ⟨0x67452301, 0xEFCDAB89, 0x98BADCFE, 0x10325476, 0xC3D2E1F0⟩

/-- The eighty words of a block: its sixteen, then each from four earlier ones. -/
def schedule (block : Bytes) : Array UInt32 :=
  (List.range 64).foldl
    (fun w _ =>
      let i := w.size
      w.push (rotateLeft (w.getD (i - 3) 0 ^^^ w.getD (i - 8) 0 ^^^ w.getD (i - 14) 0 ^^^
        w.getD (i - 16) 0) 1))
    (words block).toArray

/-- One of the eighty rounds. -/
def round (w : Array UInt32) (s : State) (i : Nat) : State :=
  let (f, k) : UInt32 × UInt32 :=
    if i < 20 then ((s.b &&& s.c) ||| ((~~~ s.b) &&& s.d), 0x5A827999)
    else if i < 40 then (s.b ^^^ s.c ^^^ s.d, 0x6ED9EBA1)
    else if i < 60 then ((s.b &&& s.c) ||| (s.b &&& s.d) ||| (s.c &&& s.d), 0x8F1BBCDC)
    else (s.b ^^^ s.c ^^^ s.d, 0xCA62C1D6)
  ⟨rotateLeft s.a 5 + f + s.e + k + w.getD i 0, s.a, rotateLeft s.b 30, s.c, s.d⟩

/-- One block. -/
def absorb (s : State) (block : Bytes) : State :=
  let t := (List.range 80).foldl (round (schedule block)) s
  ⟨s.a + t.a, s.b + t.b, s.c + t.c, s.d + t.d, s.e + t.e⟩

end Sha1

/-- The SHA-1 of a message, 20 octets. -/
def sha1 (message : Bytes) : Bytes :=
  let s := (blocks (padded message)).foldl Sha1.absorb Sha1.start
  octets [s.a, s.b, s.c, s.d, s.e]

end DeviceGateway.Hash
