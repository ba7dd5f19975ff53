import DeviceGateway.Files.Tree
import DeviceGateway.Tls.Der
import DeviceGateway.Tls.Pem

/-
  The certificates and the private key with which a gateway proves who it is. Both come from PEM
  files, and the first certificate must be for the key.
-/

namespace DeviceGateway.Tls

/-! ## Keys -/

/-- What a key signs with. -/
inductive Algorithm
  | rsa
  | p256
  | p384
  | ed25519
  deriving DecidableEq, Repr

/-- The identifier of RSA keys. -/
def rsaName : Der.Element :=
  ⟨Der.identifier, [0x2A, 0x86, 0x48, 0x86, 0xF7, 0x0D, 0x01, 0x01, 0x01]⟩

/-- The identifier of keys on the curve Ed25519. -/
def ed25519Name : Der.Element := ⟨Der.identifier, [0x2B, 0x65, 0x70]⟩

/-- The identifier of keys on a curve that the parameters name. -/
def curveName : Der.Element := ⟨Der.identifier, [0x2A, 0x86, 0x48, 0xCE, 0x3D, 0x02, 0x01]⟩

/-- The identifier of the curve P-256. -/
def p256Name : Der.Element :=
  ⟨Der.identifier, [0x2A, 0x86, 0x48, 0xCE, 0x3D, 0x03, 0x01, 0x07]⟩

/-- The identifier of the curve P-384. -/
def p384Name : Der.Element := ⟨Der.identifier, [0x2B, 0x81, 0x04, 0x00, 0x22]⟩

/-- The algorithm that an identifier and its parameters name. -/
def Algorithm.ofIdentifier? (e : Der.Element) : Option Algorithm :=
  match e.items? with
  | some (name :: parameters) =>
    if name = rsaName then some .rsa
    else if name = ed25519Name then some .ed25519
    else if name = curveName then
      if parameters = [p256Name] then some .p256
      else if parameters = [p384Name] then some .p384
      else none
    else none
  | _ => none

/-- The algorithm of a private key by the kind of its section: the general form names it, the
form for RSA is a row of numbers, and in the form for curves the length of the secret tells. -/
def keyAlgorithm? (s : Pem.Section) : Option Algorithm := do
  let items ← Der.sequence? s.content
  match s.kind, items with
  | .privateKey, version :: name :: secret :: _ =>
    if version.tag = Der.integer && secret.tag = Der.octetString then Algorithm.ofIdentifier? name
    else none
  | .rsaPrivateKey, items =>
    if items.length = 9 && items.all (·.tag = Der.integer) then some .rsa else none
  | .ecPrivateKey, version :: secret :: _ =>
    if version.tag = Der.integer && secret.tag = Der.octetString then
      match secret.content.length with
      | 32 => some .p256
      | 48 => some .p384
      | _ => none
    else none
  | _, _ => none

/-- Where a certificate names the algorithm of its key: the seventh part of what is signed, or
the sixth when the version in front is left out. -/
def certificateKey? (der : Bytes) : Option Der.Element := do
  let [signed, _, _] ← Der.sequence? der | none
  let parts ← signed.items?
  let parts := if parts.head?.any (·.tag = Der.version) then parts.drop 1 else parts
  let key ← parts[5]?
  (← key.items?).head?

/-! ## Loading -/

/-- Why a file gives no material. -/
inductive Cause
  | file (e : Files.FileError)
  | pem (f : Pem.Fault)
  | noCertificate
  | noPrivateKey
  deriving DecidableEq, Repr

/-- The wording of a cause. -/
def Cause.message : Cause → String
  | .file e => e.message
  | .pem f => f.message
  | .noCertificate => "no certificate found"
  | .noPrivateKey => "no private key found"

/-- Why a certificate and a key are of no use together. -/
inductive Rejection
  | unusableKey
  | unreadableCertificate
  | mismatch
  deriving DecidableEq, Repr

/-- The wording of a rejection. -/
def Rejection.message : Rejection → String
  | .unusableKey => "unexpected error: failed to parse private key as RSA, ECDSA, or EdDSA"
  | .unreadableCertificate => "invalid peer certificate: BadEncoding"
  | .mismatch => "keys may not be consistent: KeyMismatch"

/-- Why there is no identity. -/
inductive Fault
  | material (path : String) (cause : Cause)
  | rejected (r : Rejection)
  deriving DecidableEq, Repr

/-- The wording of a fault. -/
def Fault.message : Fault → String
  | .material path cause => "TLS material " ++ path ++ ": " ++ cause.message
  | .rejected r => "TLS configuration rejected: " ++ r.message

/-- What a server proves itself with: its certificate, those of its issuers, and its key. -/
structure Identity where
  leaf : Bytes
  issuers : List Bytes
  key : Pem.Section
  deriving DecidableEq, Repr

/-- Is it the section of a private key? -/
def isPrivateKey (s : Pem.Section) : Bool :=
  s.kind = .privateKey || s.kind = .rsaPrivateKey || s.kind = .ecPrivateKey

/-- All certificates of a file, none of whose sections may be at fault. -/
def certificates (file : Bytes) : Except Cause (Bytes × List Bytes) :=
  match Pem.read file with
  | (_, some f) => .error (.pem f)
  | (found, none) =>
    match (found.filter (·.kind = .certificate)).map (·.content) with
    | [] => .error .noCertificate
    | leaf :: issuers => .ok (leaf, issuers)

/-- The first private key of a file; what follows it is not looked at. -/
def privateKey (file : Bytes) : Except Cause Pem.Section :=
  match Pem.read file with
  | (found, fault) =>
    match found.find? isPrivateKey, fault with
    | some key, _ => .ok key
    | none, some f => .error (.pem f)
    | none, none => .error .noPrivateKey

/-- What a part of the material makes of the file at a path. -/
def fromFile {α : Type} (files : Files.Tree) (path : String) (part : Bytes → Except Cause α) :
    Except Fault α :=
  match files.read path with
  | .error e => .error (.material path (.file e))
  | .ok file =>
    match part file with
    | .ok a => .ok a
    | .error c => .error (.material path c)

/-- Why a certificate and a key do not go together, if they do not. -/
def rejection? (leaf : Bytes) (key : Pem.Section) : Option Rejection :=
  match keyAlgorithm? key, certificateKey? leaf with
  | none, _ => some .unusableKey
  | some _, none => some .unreadableCertificate
  | some a, some name => if Algorithm.ofIdentifier? name = some a then none else some .mismatch

/-- The identity in two files; the one with the certificates is looked at first. -/
def load (files : Files.Tree) (certPath keyPath : String) : Except Fault Identity := do
  let (leaf, issuers) ← fromFile files certPath certificates
  let key ← fromFile files keyPath privateKey
  match rejection? leaf key with
  | some r => .error (.rejected r)
  | none => .ok { leaf, issuers, key }

/-! ## Greeting -/

/-- The protocols that the gateway speaks inside TLS. -/
def protocols : List String := ["http/1.1"]

/-- What comes of a client's offer of protocols. -/
inductive Agreement
  | refused
  | agreed (protocol : Option String)
  deriving DecidableEq, Repr

/-- The protocol agreed on: a client that offers none is served all the same, one that offers
only others is refused. -/
def agree (offered : List String) : Agreement :=
  if offered.isEmpty then .agreed none
  else
    match protocols.find? offered.contains with
    | some p => .agreed (some p)
    | none => .refused

end DeviceGateway.Tls
