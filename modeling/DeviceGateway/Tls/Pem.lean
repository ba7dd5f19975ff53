import DeviceGateway.Binary.Base64
import DeviceGateway.Text.Quoted
import DeviceGateway.Text.Utf8

/-
  PEM files: sections between a line that begins them and a line that ends them, with Base64 in
  between. Text outside sections is passed over, and so are sections with a label of no use here.
-/

namespace DeviceGateway.Pem

/-- What a section holds. -/
inductive Kind
  | certificate
  | publicKey
  | privateKey
  | rsaPrivateKey
  | ecPrivateKey
  | revocationList
  | certificateRequest
  | encryptedHello
  deriving DecidableEq, Repr

/-- The label of a kind. -/
def Kind.label : Kind → String
  | .certificate => "CERTIFICATE"
  | .publicKey => "PUBLIC KEY"
  | .privateKey => "PRIVATE KEY"
  | .rsaPrivateKey => "RSA PRIVATE KEY"
  | .ecPrivateKey => "EC PRIVATE KEY"
  | .revocationList => "X509 CRL"
  | .certificateRequest => "CERTIFICATE REQUEST"
  | .encryptedHello => "ECHCONFIG"

/-- All kinds. -/
def Kind.all : List Kind :=
  [.certificate, .publicKey, .privateKey, .rsaPrivateKey, .ecPrivateKey, .revocationList,
    .certificateRequest, .encryptedHello]

/-- The kind of a label. -/
def Kind.ofLabel? (label : Bytes) : Option Kind := Kind.all.find? (utf8 ·.label = label)

/-- A section whose content could be decoded. -/
structure Section where
  kind : Kind
  content : Bytes
  deriving DecidableEq, Repr

/-- Why reading stops. -/
inductive Fault
  | noEnd (label : Bytes)
  | illegalStart (line : Bytes)
  | illegalCharacter (b : UInt8)
  | earlyPadding
  | illegalEnd
  deriving DecidableEq, Repr

/-- The wording of a fault. -/
def Fault.message : Fault → String
  | .noEnd label => "section end " ++ Text.quoted (Utf8.mended label) ++ " missing"
  | .illegalStart line => "illegal section start: " ++ Text.quoted (Utf8.mended line)
  | .illegalCharacter b => "InvalidCharacter(" ++ toString b.toNat ++ ")"
  | .earlyPadding => "PrematurePadding"
  | .illegalEnd => "InvalidTrailingPadding"

/-- Does the octet end a line? -/
def isLineEnd (b : UInt8) : Bool := b == 0x0A || b == 0x0D

/-- The lines of a file, each with the octet that ends it. -/
def lines (bs : Bytes) : List Bytes :=
  bs.foldr (fun b ls =>
    match isLineEnd b, ls with
    | false, l :: ls => (b :: l) :: ls
    | _, ls => [b] :: ls) []

/-- The octet of a dash. -/
def dash : UInt8 := 0x2D

/-- What a line that begins a section starts with. -/
def beginMark : Bytes := utf8 "-----BEGIN "

/-- The line's end that consists of dashes, blanks and line ends only, from its first dash on. -/
def closing (line : Bytes) : Bytes :=
  ((line.reverse.takeWhile fun b => b == dash || b == 0x20 || isLineEnd b).reverse).dropWhile
    (· ≠ dash)

/-- The label on a line that begins a section; five dashes must close it. -/
def begins? (line : Bytes) : Option (Except Fault Bytes) :=
  if beginMark.isPrefixOf line then
    if (closing line).count dash = 5 then
      some (.ok ((line.take (line.length - (closing line).length)).drop beginMark.length))
    else some (.error (.illegalStart line))
  else none

/-- What a line that ends a section starts with. -/
def endMark (label : Bytes) : Bytes := utf8 "-----END " ++ label ++ utf8 "-----"

/-- Is the octet passed over between characters of Base64? -/
def isSpace (b : UInt8) : Bool := b == 0x20 || (0x09 ≤ b && b ≤ 0x0D)

/-- The value of a character of Base64; padding counts as zero and is marked. -/
def letter? (b : UInt8) : Option (Nat × Bool) :=
  if b == Base64.pad then some (0, true) else (Base64.value? b).map ((·, false))

/-- Is there padding among characters? -/
def isPadded (cs : List (Nat × Bool)) : Bool := cs.any (·.2)

/-- The content of a last group of four: it lacks up to two characters, and padding may stand for
those. -/
def decodeGroup (cs : List (Nat × Bool)) : Except Fault Bytes :=
  let values := cs.map (·.1)
  match cs.map (·.2) with
  | [] => .ok []
  | [false, false] => .ok (Base64.unpack values)
  | [false, false, false] => .ok (Base64.unpack values)
  | [false, false, false, false] => .ok (Base64.unpack values)
  | [false, false, false, true] => .ok (Base64.unpack (values.take 3))
  | [false, false, true, true] => .ok (Base64.unpack (values.take 2))
  | _ => .error .illegalEnd

/-- The content of the last characters, at most eight. -/
def decodeEnd (cs : List (Nat × Bool)) : Except Fault Bytes :=
  if cs.length ≤ 4 then decodeGroup cs
  else if isPadded (cs.take 4) then .error .earlyPadding
  else (decodeGroup (cs.drop 4)).map (Base64.unpack ((cs.take 4).map (·.1)) ++ ·)

/-- The content of a section's text from the characters of the current row on, latest first. A row
has eight characters, and one with padding is the last; `done` holds the content so far, latest
octet first. -/
def decodeFrom (row : List (Nat × Bool)) (done : Bytes) : Bytes → Except Fault Bytes
  | [] => (decodeEnd row.reverse).map (done.reverse ++ ·)
  | b :: bs =>
    if isSpace b then decodeFrom row done bs
    else
      match letter? b with
      | none => .error (.illegalCharacter b)
      | some c =>
        if row.length < 8 then decodeFrom (c :: row) done bs
        else if isPadded row then .error .earlyPadding
        else decodeFrom [c] ((Base64.unpack (row.reverse.map (·.1))).reverse ++ done) bs

/-- The content of a section's text. Padding may be left out, but stands at the end only. -/
def decode (text : Bytes) : Except Fault Bytes := decodeFrom [] [] text

/-- Reads on: the label of the section that is open, its lines and the sections so far, both
latest first. A line that begins a section inside another one gives it its label and keeps its
lines. -/
def readFrom (label : Option Bytes) (body : List Bytes) (found : List Section) :
    List Bytes → List Section × Option Fault
  | [] => (found.reverse, label.map .noEnd)
  | line :: rest =>
    match begins? line, label with
    | some (.error f), _ => (found.reverse, some f)
    | some (.ok l), _ => readFrom (some l) body found rest
    | none, none => readFrom none body found rest
    | none, some l =>
      if (endMark l).isPrefixOf line then
        match Kind.ofLabel? l with
        | none => readFrom none [] found rest
        | some kind =>
          match decode body.reverse.flatten with
          | .ok content => readFrom none [] (⟨kind, content⟩ :: found) rest
          | .error f => (found.reverse, some f)
      else readFrom (some l) (line :: body) found rest

/-- The sections of a file up to the first fault, and the fault. -/
def read (file : Bytes) : List Section × Option Fault := readFrom none [] [] (lines file)

end DeviceGateway.Pem
