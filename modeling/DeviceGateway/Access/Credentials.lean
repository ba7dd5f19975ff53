import DeviceGateway.Access.Accounts
import DeviceGateway.Bytes

/-
  The credential store: accounts, and the bearer tokens that were issued. A token lives for the
  store's token life after it was issued; an account holds at most sixteen, and one more token
  drops its oldest. Times are milliseconds of a clock that never goes back.
-/

namespace DeviceGateway

/-- The token life when none is set: one hour. -/
def defaultTokenLife : Nat := 3600000

/-- How many live tokens one account may hold. -/
def maxTokensPerAccount : Nat := 16

/-- The text of a token: sixteen random octets as hexadecimal digits, with the digits set that
mark a random identifier. -/
def tokenText (octets : Bytes) : String :=
  String.ofList (((toHex octets).toList.set 12 '4').set 16 'a')

/-- A token that was issued. -/
structure Token where
  text : String
  owner : Principal
  issued : Nat
  deriving DecidableEq, Repr

/-- Is a token at least as old as another? Of two that were issued at once the lesser text comes
first. -/
def Token.isOlder (a b : Token) : Bool :=
  a.issued < b.issued || (a.issued == b.issued && a.text ≤ b.text)

/-- Why credentials are refused. -/
inductive Refusal
  | missingHeader
  | unknownScheme
  | malformed
  | badCredentials
  | unknownToken
  deriving DecidableEq, Repr

/-- The wording of a refusal; it is only ever logged. -/
def Refusal.message : Refusal → String
  | .missingHeader => "missing Authorization header"
  | .unknownScheme => "unsupported authorization scheme"
  | .malformed => "malformed credentials"
  | .badCredentials => "invalid credentials"
  | .unknownToken => "unknown or expired token"

/-- The accounts and the tokens, earliest issued first. -/
structure Credentials where
  accounts : List Account := []
  tokens : List Token := []
  life : Nat := defaultTokenLife
  deriving Repr

namespace Credentials

/-- Is the token still alive? -/
def isLive (c : Credentials) (now : Nat) (t : Token) : Bool := now - t.issued < c.life

/-- The store without the tokens that are no longer alive. -/
def prune (c : Credentials) (now : Nat) : Credentials :=
  { c with tokens := c.tokens.filter (c.isLive now) }

/-- The owner of a token. Looking up a dead token prunes the store. -/
def verifyToken (c : Credentials) (now : Nat) (text : String) :
    Credentials × Except Refusal Principal :=
  match c.tokens.find? (·.text = text) with
  | none => (c, .error .unknownToken)
  | some t => if c.isLive now t then (c, .ok t.owner) else (c.prune now, .error .unknownToken)

/-- The principal of a name and a password. -/
def verifyPassword (c : Credentials) (name password : String) : Except Refusal Principal :=
  match Account.find? c.accounts name with
  | some a => if a.password = password then .ok ⟨name, a.level⟩ else .error .badCredentials
  | none => .error .badCredentials

/-- The texts of an account's tokens that have to go so that it may hold one more: its oldest,
by time of issue and then by text. -/
def surplus (c : Credentials) (name : String) : List String :=
  let held := c.tokens.filter (·.owner.name = name)
  ((held.mergeSort Token.isOlder).take (held.length + 1 - maxTokensPerAccount)).map (·.text)

/-- The store with one more token, whose text was never used before. -/
def issue (c : Credentials) (now : Nat) (owner : Principal) (text : String) : Credentials :=
  let c := c.prune now
  let surplus := c.surplus owner.name
  { c with
    tokens := c.tokens.filter (fun t => !surplus.contains t.text) ++
      [{ text, owner, issued := now }] }

end Credentials

end DeviceGateway
