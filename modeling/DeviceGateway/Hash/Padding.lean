import DeviceGateway.Bytes

/-
  What the two hashes share: padding a message to whole blocks of 64 octets, and the words of a
  block.
-/

namespace DeviceGateway.Hash

/-- The message, the octet 0x80, zeros, and the message's length in bits as eight octets. -/
def padded (message : Bytes) : Bytes :=
  let n := message.length
  message ++ 0x80 :: List.replicate ((119 - n % 64) % 64) 0 ++ bigEndian 8 (n * 8)

/-- The 32-bit words of a block. -/
def words : Bytes → List UInt32
  | a :: b :: c :: d :: r =>
    ((UInt32.ofNat a.toNat <<< 24) ||| (UInt32.ofNat b.toNat <<< 16) |||
      (UInt32.ofNat c.toNat <<< 8) ||| UInt32.ofNat d.toNat) :: words r
  | _ => []

/-- The blocks of 64 octets. -/
def blocks (bs : Bytes) : List Bytes :=
  (List.range (bs.length / 64)).map fun i => (bs.drop (i * 64)).take 64

/-- A word's bits turned left. -/
def rotateLeft (x : UInt32) (n : UInt32) : UInt32 := (x <<< n) ||| (x >>> (32 - n))

/-- A word's bits turned right. -/
def rotateRight (x : UInt32) (n : UInt32) : UInt32 := (x >>> n) ||| (x <<< (32 - n))

/-- The octets of words. -/
def octets (ws : List UInt32) : Bytes := ws.flatMap fun w => bigEndian 4 w.toNat

end DeviceGateway.Hash
