import DeviceGateway.Text.Hidden

/-
  A text between quotes, as messages show the texts they complain about.
-/

namespace DeviceGateway.Text

/-- A character inside the quotes. -/
def shown (c : Char) : List Char :=
  if c = '"' then ['\\', '"']
  else if c = '\\' then ['\\', '\\']
  else if c = '\n' then ['\\', 'n']
  else if c = '\r' then ['\\', 'r']
  else if c = '\t' then ['\\', 't']
  else if c.toNat = 0 then ['\\', '0']
  else if c.toNat < 0x20 || (0x7F ≤ c.toNat && isHidden c) then
    '\\' :: 'u' :: '\x7b' :: Nat.toDigits 16 c.toNat ++ ['\x7d']
  else [c]

/-- A text between quotes. -/
def quoted (s : String) : String := String.ofList ('"' :: s.toList.flatMap shown ++ ['"'])

end DeviceGateway.Text
