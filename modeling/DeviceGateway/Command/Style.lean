import DeviceGateway.Command.Line
import DeviceGateway.Text.Terminal

/-
  Parts of a text for the terminal are set off by styles. The styles are left out unless the
  environment asks for them, and with them every control sequence that the text quotes.
-/

namespace DeviceGateway.Command

/-- How a part of a text is set off. -/
inductive Style
  | heading
  | literal
  | invalid
  | error
  deriving DecidableEq, Repr

namespace Style

/-- What turns a style on. -/
def codes : Style → String
  | .heading => "\x1b[1m\x1b[4m"
  | .literal => "\x1b[1m"
  | .invalid => "\x1b[33m"
  | .error => "\x1b[1m\x1b[31m"

/-- A text in a style. -/
def apply (s : Style) (text : String) : String := s.codes ++ text ++ "\x1b[0m"

/-- A text in a style between quotes. -/
def quote (s : Style) (text : String) : String := "'" ++ s.apply text ++ "'"

/-- The variable that turns styles off, whatever else is set. -/
def offVariable : String := "NO_COLOR"

/-- The variable that turns styles on. -/
def onVariable : String := "CLICOLOR_FORCE"

/-- Does the environment ask for styles? An empty variable counts as none. -/
def isWanted (env : Environment) : Bool :=
  (env.lookup onVariable).getD "" ≠ "" && (env.lookup offVariable).getD "" = ""

end Style

/-- A text as it is written in an environment. -/
def written (env : Environment) (text : String) : String :=
  if Style.isWanted env then text else Text.withoutControls text

end DeviceGateway.Command
