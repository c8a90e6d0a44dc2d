import TermSession.Text.PrintableTable
import TermSession.Text.Width

/-!
# Quoted texts

A text between double quotes, for display: the quote and the backslash are escaped, and so is
every character that would not show as itself.
-/

namespace TermSession.Text

/-- The escape by code point, as in `\u` and the hexadecimal code between braces. -/
def escapeCode (c : Char) : Text :=
  ['\\', 'u', '\x7b'] ++ Nat.toDigits 16 c.toNat ++ ['\x7d']

/-- How a character shows between double quotes. -/
def escapeChar (c : Char) : Text :=
  if c = '\x00' then ['\\', '0']
  else if c = '\t' then ['\\', 't']
  else if c = '\n' then ['\\', 'n']
  else if c = '\r' then ['\\', 'r']
  else if c = '\\' || c = '"' then ['\\', c]
  else if inRanges graphemeExtend c.toNat || inRanges unprintable c.toNat then escapeCode c
  else [c]

/-- A text between double quotes, with escapes. -/
def quote (t : Text) : Text := '"' :: t.flatMap escapeChar ++ ['"']

end TermSession.Text
