import TermSession.Text.Width

/-!
# Hexadecimal numerals

* `Hex.digit?`: the value of a digit;
* `Hex.read?`: the value of a list of digits.
-/

namespace TermSession.Hex

/-- The value of a hexadecimal digit of either case. -/
def digit? (c : Char) : Option Nat :=
  if '0' ≤ c && c ≤ '9' then some (c.toNat - '0'.toNat)
  else if 'a' ≤ c && c ≤ 'f' then some (c.toNat - 'a'.toNat + 10)
  else if 'A' ≤ c && c ≤ 'F' then some (c.toNat - 'A'.toNat + 10)
  else none

/-- The value of hexadecimal digits; of none at all it is zero. -/
def read? (t : Text) : Option Nat :=
  t.foldlM (fun n c => (digit? c).map fun d => 16 * n + d) 0

end TermSession.Hex
