/-
  Texts for a terminal. Control sequences set off parts of a text; where no terminal reads along
  they are left out, together with all other control characters but those that are blank. A
  sequence that does not end takes what follows it along, up to the next one.
-/

namespace DeviceGateway.Text.Terminal

/-- Where in a control sequence a character stands. -/
inductive Place
  | plain
  /-- Behind the character that starts a sequence. -/
  | start
  /-- In a sequence that its first character of those from `0` on ends. -/
  | short
  /-- In a sequence that a letter ends. -/
  | sequence
  /-- Before the data of a device. -/
  | device
  /-- In data that is not shown. -/
  | data
  /-- In a command to the terminal itself. -/
  | command
  deriving DecidableEq, Repr

/-- Does an octet of the character end data? Data ends at an octet, whatever it is a part of. -/
def endsData (c : Char) : Bool := (String.utf8EncodeChar c).contains 0x9C

/-- The place behind a character. -/
def Place.next (p : Place) (c : Char) : Place :=
  if c = '\x18' || c = '\x1a' then .plain
  else if c = '\x1b' then .start
  else
    match p with
    | .plain => .plain
    | .start =>
      if ' ' ≤ c && c ≤ '/' then .short
      else if c = '[' then .sequence
      else if c = 'P' then .device
      else if c = 'X' || c = '^' || c = '_' then .data
      else if c = ']' then .command
      else if '0' ≤ c && c ≤ '~' then .plain
      else .start
    | .short => if '0' ≤ c && c ≤ '~' then .plain else .short
    | .sequence => if '@' ≤ c && c ≤ '~' then .plain else .sequence
    | .device => if c = ':' || ('@' ≤ c && c ≤ '~') then .data else .device
    | .data => if endsData c then .plain else .data
    | .command => if c = '\x07' then .plain else .command

/-- Is a character at this place shown? Blank control characters are shown inside of short
sequences too. -/
def Place.shows (p : Place) (c : Char) : Bool :=
  if c = '\t' || c = '\n' || c = '\x0c' || c = '\r' then
    p == .plain || p == .start || p == .short || p == .sequence
  else p == .plain && ' ' ≤ c && c ≠ '\x7f'

/-- The characters shown of those from a place on. After a character that is shown, those that
follow are shown as plain ones are; the place counts again from the first that is not. -/
def shownFrom (p : Place) (showing : Bool) : List Char → List Char
  | [] => []
  | c :: cs =>
    if showing && Place.plain.shows c then
      c :: shownFrom (if c.toNat < 0x80 then p else .plain) true cs
    else if p.shows c then c :: shownFrom (p.next c) true cs
    else shownFrom (p.next c) false cs

end Terminal

/-- A text without its control sequences. -/
def withoutControls (text : String) : String :=
  String.ofList (Terminal.shownFrom .plain false text.toList)

end DeviceGateway.Text
