import TermSession.Text.Decimal

/-!
# Writing JSON

Texts in the compact form, without blanks: strings, numbers and objects.
-/

namespace TermSession.Json

/-- How a character is written in a string.  Quotes, backslashes and controls are escaped; all
others stand for themselves. -/
def writeChar (c : Char) : Text :=
  if c = '"' then ['\\', '"']
  else if c = '\\' then ['\\', '\\']
  else if c = '\x08' then ['\\', 'b']
  else if c = '\x0c' then ['\\', 'f']
  else if c = '\n' then ['\\', 'n']
  else if c = '\r' then ['\\', 'r']
  else if c = '\t' then ['\\', 't']
  else if c.toNat < 0x20 then
    ['\\', 'u', '0', '0', Nat.digitChar (c.toNat / 16), Nat.digitChar (c.toNat % 16)]
  else [c]

/-- A string. -/
def writeString (t : Text) : Text := '"' :: t.flatMap writeChar ++ ['"']

/-- A natural number. -/
def writeNat (n : Nat) : Text := Decimal.render n

/-- A member of an object, from its name and its written value. -/
def writeMember (m : String × Text) : Text := writeString m.1.toList ++ [':'] ++ m.2

/-- An object, from the names and the written values of its members. -/
def writeObject (members : List (String × Text)) : Text :=
  ['\x7b'] ++ List.intercalate [','] (members.map writeMember) ++ ['\x7d']

end TermSession.Json
