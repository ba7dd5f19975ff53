import DeviceGateway.Command.Style
import DeviceGateway.Text.Blank

/-
  What the command line answers by itself: the wording of a misuse, the help text and the version.
-/

namespace DeviceGateway.Command

/-! ## Misuse -/

/-- What is wrong. -/
def Misuse.why : Misuse → String
  | .unexpected argument => "unexpected argument " ++ Style.invalid.quote argument ++ " found"
  | .unexpectedValue value flag =>
    "unexpected value " ++ Style.invalid.quote value ++ " for " ++ Style.literal.quote flag ++
      " found; no more were expected"
  | .missingValue f =>
    "a value is required for " ++ Style.invalid.quote f.label ++ " but none was supplied"
  | .repeated f =>
    "the argument " ++ Style.invalid.quote f.label ++ " cannot be used multiple times"
  | .notPort value why =>
    "invalid value " ++ Style.invalid.quote value ++ " for " ++
      Style.literal.quote Flag.port.label ++ ": " ++ why.message

/-- The wording of a misuse. -/
def Misuse.message (m : Misuse) : String := Style.error.apply "error:" ++ " " ++ m.why

/-! ## Help -/

/-- The width of the column that names the options. -/
def optionWidth : Nat := 25

/-- As many blanks. -/
def blanks (n : Nat) : String := String.ofList (List.replicate n ' ')

/-- A line about an option: its name in a column of its own, then what is said about it, whose
further lines start where the first one does. -/
def optionLine (name about : String) : String :=
  let rest := blanks (optionWidth - (Text.withoutControls name).length)
  name ++ rest ++ Text.moveIn "" (blanks optionWidth) about ++ "\n"

/-- The line about an option that takes a value; it shows the value of the environment. -/
def Flag.help (env : Environment) (f : Flag) : String :=
  optionLine ("      " ++ Style.literal.apply ("--" ++ f.name) ++ " <" ++ f.capitals ++ ">")
    (f.purpose ++ " [env: " ++ f.envName ++ "=" ++ (env.lookup f.envName).getD "" ++ "]" ++
      f.default?.elim "" fun d => " [default: " ++ d ++ "]")

/-- The line about an option that takes no value. -/
def plainHelp (letter name about : String) : String :=
  optionLine ("  " ++ Style.literal.apply letter ++ ", " ++ Style.literal.apply name) about

/-- The help text. -/
def help (env : Environment) : String :=
  "Home-automation gateway server\n\n" ++ Style.heading.apply "Usage:" ++ " " ++
    Style.literal.apply "homegw" ++ " [OPTIONS]\n\n" ++ Style.heading.apply "Options:" ++ "\n" ++
    String.join (Flag.all.map (·.help env)) ++
    plainHelp "-h" "--help" "Print help" ++ plainHelp "-V" "--version" "Print version"

/-- The version text. -/
def version : String := "homegw 0.1.0\n"

end DeviceGateway.Command
