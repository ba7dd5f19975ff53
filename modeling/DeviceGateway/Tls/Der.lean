import DeviceGateway.Bytes

/-
  DER: elements of a tag, a length and a content, which may be elements again.
-/

namespace DeviceGateway.Der

/-- An element. -/
structure Element where
  tag : UInt8
  content : Bytes
  deriving DecidableEq, Repr

/-- The tag of a whole number. -/
def integer : UInt8 := 0x02

/-- The tag of an octet string. -/
def octetString : UInt8 := 0x04

/-- The tag of an object identifier. -/
def identifier : UInt8 := 0x06

/-- The tag of a sequence. -/
def sequence : UInt8 := 0x30

/-- The tag of the version in front of a certificate's parts. -/
def version : UInt8 := 0xA0

/-- A length, in as few octets as it takes, and what follows it. -/
def length? : Bytes → Option (Nat × Bytes)
  | [] => none
  | b :: rest =>
    if b < 0x80 then some (b.toNat, rest)
    else
      let width := b.toNat - 0x80
      let n := ofBigEndian (rest.take width)
      if width = 0 || 4 < width || rest.length < width || n < 0x80 || rest.head? = some 0 then none
      else some (n, rest.drop width)

/-- The element in front and what follows it. -/
def element? : Bytes → Option (Element × Bytes)
  | [] => none
  | tag :: rest => do
    let (n, rest) ← length? rest
    if rest.length < n then none else some (⟨tag, rest.take n⟩, rest.drop n)

/-- All elements; each takes two octets at least. -/
def elementsWithin : (fuel : Nat) → Bytes → Option (List Element)
  | _, [] => some []
  | 0, _ => none
  | n + 1, bs => do
    let (e, rest) ← element? bs
    let es ← elementsWithin n rest
    return e :: es

/-- The elements that octets consist of. -/
def elements? (bs : Bytes) : Option (List Element) := elementsWithin bs.length bs

/-- The elements of a sequence. -/
def Element.items? (e : Element) : Option (List Element) :=
  if e.tag = sequence then elements? e.content else none

/-- The elements of the sequence that the octets are. -/
def sequence? (bs : Bytes) : Option (List Element) :=
  match element? bs with
  | some (e, []) => e.items?
  | _ => none

end DeviceGateway.Der
