import DeviceGateway.Access.Credentials
import DeviceGateway.Binary.Base64
import DeviceGateway.Text.Blank
import DeviceGateway.Text.Utf8

/-
  The `Authorization` header: a scheme, a space and a payload. `Bearer` takes a token, `Basic`
  the Base64 of a name, a colon and a password.
-/

namespace DeviceGateway

/-- What a header claims, before any store is asked. -/
inductive Claim
  | token (text : String)
  | password (name password : String)
  deriving DecidableEq, Repr

/-- The name and the password of a `Basic` payload; the first colon ends the name. -/
def basicClaim? (payload : List Char) : Option Claim := do
  let octets ← Base64.decode? (utf8 (String.ofList payload))
  let text ← Utf8.decode? octets
  let (name, password) ← Text.splitOnce ':' text.toList
  return .password (String.ofList name) (String.ofList password)

/-- What a header claims. -/
def Claim.ofHeader (header : Option String) : Except Refusal Claim :=
  match header with
  | none => .error .missingHeader
  | some h =>
    match Text.splitOnce ' ' (Text.trim h.toList) with
    | none => .error .malformed
    | some (scheme, rest) =>
      let payload := Text.trim rest
      if Text.sameIgnoringCase scheme "Bearer".toList then
        if payload.isEmpty then .error .malformed else .ok (.token (String.ofList payload))
      else if Text.sameIgnoringCase scheme "Basic".toList then
        match basicClaim? payload with
        | some claim => .ok claim
        | none => .error .malformed
      else .error .unknownScheme

/-- Who a header stands for. -/
def Credentials.authorize (c : Credentials) (now : Nat) (header : Option String) :
    Credentials × Except Refusal Principal :=
  match Claim.ofHeader header with
  | .error r => (c, .error r)
  | .ok (.token text) => c.verifyToken now text
  | .ok (.password name password) => (c, c.verifyPassword name password)

end DeviceGateway
