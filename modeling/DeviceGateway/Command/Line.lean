import DeviceGateway.Net.Address
import DeviceGateway.Settings.Basic

/-
  The command line. Options may also be given by environment variables; what the command line
  gives counts first, then the environment, then the settings file.
-/

namespace DeviceGateway.Command

/-! ## Options -/

/-- An option; each takes a value. -/
inductive Flag
  | config
  | bind
  | port
  | cert
  | key
  deriving DecidableEq, Repr

namespace Flag

/-- All options in order. -/
def all : List Flag := [.config, .bind, .port, .cert, .key]

/-- The name of an option. -/
def name : Flag → String
  | .config => "config"
  | .bind => "bind"
  | .port => "port"
  | .cert => "cert"
  | .key => "key"

/-- The name in capitals. -/
def capitals (f : Flag) : String := String.ofList (f.name.toList.map Char.toUpper)

/-- An option with its value, as messages name it. -/
def label (f : Flag) : String := "--" ++ f.name ++ " <" ++ f.capitals ++ ">"

/-- The environment variable of an option. -/
def envName (f : Flag) : String := "HOMEGW_" ++ f.capitals

/-- What an option is for. -/
def purpose : Flag → String
  | .config => "Path of the TOML configuration file.  A missing file means defaults"
  | .bind => "IP address to bind the TLS listener (and discovery socket) to"
  | .port => "TCP port of the TLS listener"
  | .cert => "PEM certificate chain"
  | .key => "PEM private key"

/-- The value of an option that is not given. -/
def default? : Flag → Option String
  | .config => some "homegw.toml"
  | _ => none

/-- The option of a name. -/
def ofName? (name : String) : Option Flag := all.find? (·.name = name)

end Flag

/-- The environment: variables with their values. -/
abbrev Environment := List (String × String)

/-! ## Values -/

/-- Why a text is no port. -/
inductive PortFault
  | empty
  | notDigits
  | tooLarge
  | tooSmall
  | outOfRange (n : Int)
  deriving DecidableEq, Repr

/-- The wording of a fault. -/
def PortFault.message : PortFault → String
  | .empty => "cannot parse integer from empty string"
  | .notDigits => "invalid digit found in string"
  | .tooLarge => "number too large to fit in target type"
  | .tooSmall => "number too small to fit in target type"
  | .outOfRange n => toString n ++ " is not in 0..=65535"

/-- The number that digits write after `n`; the first digit that leads beyond `limit` is refused
before anything behind it is looked at. -/
def readDigits (limit : Nat) (beyond : PortFault) (n : Nat) : List Char → Except PortFault Nat
  | [] => .ok n
  | c :: cs =>
    match Net.digit? 10 c with
    | none => .error .notDigits
    | some d =>
      if limit < n * 10 + d then .error beyond else readDigits limit beyond (n * 10 + d) cs

/-- A whole number of 64 bits, with a sign or without. -/
def readInteger : List Char → Except PortFault Int
  | [] => .error .empty
  | ['+'] | ['-'] => .error .notDigits
  | '-' :: cs => (readDigits 0x8000000000000000 .tooSmall 0 cs).map fun n => -(n : Int)
  | '+' :: cs => (readDigits 0x7FFFFFFFFFFFFFFF .tooLarge 0 cs).map Int.ofNat
  | cs => (readDigits 0x7FFFFFFFFFFFFFFF .tooLarge 0 cs).map Int.ofNat

/-- The port that a text writes. -/
def readPort (text : String) : Except PortFault UInt16 :=
  match readInteger text.toList with
  | .error e => .error e
  | .ok n => if 0 ≤ n && n ≤ 65535 then .ok (UInt16.ofNat n.toNat) else .error (.outOfRange n)

/-- Why a command line is refused. -/
inductive Misuse
  | unexpected (argument : String)
  | unexpectedValue (value flag : String)
  | missingValue (f : Flag)
  | repeated (f : Flag)
  | notPort (value : String) (why : PortFault)
  deriving DecidableEq, Repr

/-- Is the value fit for the option? Paths must not be empty. -/
def check (f : Flag) (value : String) : Except Misuse Unit :=
  match f with
  | .bind => .ok ()
  | .port =>
    match readPort value with
    | .ok _ => .ok ()
    | .error why => .error (.notPort value why)
  | _ => if value = "" then .error (.missingValue f) else .ok ()

/-! ## Reading -/

/-- Why reading ends early. -/
inductive Stop
  | help
  | version
  | misuse (m : Misuse)
  deriving DecidableEq, Repr

/-- Reading so far: options with their values, and an option whose value is not looked at yet or
has not come yet. -/
structure Reading where
  given : List (Flag × String) := []
  waiting : Option (Flag × Option String) := none
  deriving DecidableEq, Repr

namespace Reading

/-- Gives an option its value, which it may have once. -/
def give (r : Reading) (f : Flag) (value : String) : Except Stop Reading :=
  if (r.given.lookup f).isSome then .error (.misuse (.repeated f))
  else
    match check f value with
    | .ok _ => .ok { given := r.given ++ [(f, value)] }
    | .error m => .error (.misuse m)

/-- Looks at the value of the option that waits. -/
def settle (r : Reading) : Except Stop Reading :=
  match r.waiting with
  | none => .ok r
  | some (f, none) => .error (.misuse (.missingValue f))
  | some (f, some value) => { r with waiting := none }.give f value

/-- An argument that starts with two dashes, with a value of its own or without. -/
def long (r : Reading) (name : String) (value : Option String) : Except Stop Reading :=
  match Flag.ofName? name, value with
  | some f, some v => do (← r.settle).give f v
  | some f, none => do return { ← r.settle with waiting := some (f, none) }
  | none, value =>
    if name = "help" || name = "version" then
      match value with
      | some v => .error (.misuse (.unexpectedValue v ("--" ++ name)))
      | none => do
        let _ ← r.settle
        .error (if name = "help" then .help else .version)
    else .error (.misuse (.unexpected ("--" ++ name)))

/-- An argument that starts with one dash: its first letter decides. -/
def short (r : Reading) (c : Char) : Except Stop Reading :=
  if c = 'h' || c = 'V' then do
    let _ ← r.settle
    .error (if c = 'h' then .help else .version)
  else .error (.misuse (.unexpected (String.ofList ['-', c])))

/-- One argument, before any that is nothing but two dashes. -/
def argument (r : Reading) (text : String) : Except Stop Reading :=
  match text.toList with
  | '-' :: '-' :: cs =>
    match Text.splitOnce '=' cs with
    | some (name, value) => r.long (String.ofList name) (some (String.ofList value))
    | none => r.long (String.ofList cs) none
  | '-' :: c :: _ => r.short c
  | _ =>
    match r.waiting with
    | some (f, none) => .ok { r with waiting := some (f, some text) }
    | _ => .error (.misuse (.unexpected text))

/-- All arguments. After one that is nothing but two dashes no other may follow. -/
def arguments (r : Reading) : List String → Except Stop Reading
  | [] => r.settle
  | text :: rest =>
    if text = "--" then
      match rest with
      | [] => r.settle
      | next :: _ => .error (.misuse (.unexpected next))
    else do (← r.argument text).arguments rest

/-- Options that the command line does not give are taken from the environment. -/
def complete (r : Reading) (env : Environment) : Except Stop Reading :=
  (Flag.all.filter fun f => (r.given.lookup f).isNone).foldlM (fun r f =>
    match env.lookup f.envName with
    | some value => r.give f value
    | none => .ok r) r

end Reading

/-- What a start is asked to do. -/
structure Arguments where
  config : String
  bind : Option String := none
  port : Option UInt16 := none
  cert : Option String := none
  key : Option String := none
  deriving DecidableEq, Repr

/-- The arguments of a command line in an environment. -/
def Arguments.read (env : Environment) (line : List String) : Except Stop Arguments := do
  let r ← (← Reading.arguments {} line).complete env
  let value (f : Flag) : Option String := (r.given.lookup f).or f.default?
  return {
    config := (value .config).getD ""
    bind := value .bind
    port := (value .port).bind fun text => (readPort text).toOption
    cert := value .cert
    key := value .key }

/-- The settings with what the arguments give in place of what was there. -/
def Arguments.override (a : Arguments) (s : Settings) : Settings :=
  { s with
    server.bindAddress := a.bind.getD s.server.bindAddress
    server.port := a.port.getD s.server.port
    server.certPath := a.cert.getD s.server.certPath
    server.keyPath := a.key.getD s.server.keyPath }

end DeviceGateway.Command
