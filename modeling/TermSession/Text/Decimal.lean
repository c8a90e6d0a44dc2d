import TermSession.Text.Width

/-!
# Decimal numerals

* `Decimal.render`: the decimal digits of a number;
* `Decimal.value`: the number a list of digits stands for;
* `Decimal.valueUpTo`: the same for numerals of any length, cut off at a bound;
* `Decimal.read?`: a bounded number from its numeral, which may carry a plus sign.
-/

namespace TermSession.Decimal

/-- The decimal digits of a number. -/
def render (n : Nat) : Text := Nat.toDigits 10 n

/-- The number written by decimal digits. -/
def value (digits : Text) : Nat := digits.foldl (fun n c => 10 * n + (c.toNat - '0'.toNat)) 0

/-- The number written by decimal digits, or `bound` if it is larger.  However long the numeral,
no number on the way is larger than ten times the bound and nine. -/
def valueUpTo (bound : Nat) (digits : Text) : Nat :=
  digits.foldl (fun n c => min (10 * n + (c.toNat - '0'.toNat)) bound) 0

theorem foldl_min (bound n : Nat) (digits : Text) :
    digits.foldl (fun n c => min (10 * n + (c.toNat - '0'.toNat)) bound) (min n bound) =
      min (digits.foldl (fun n c => 10 * n + (c.toNat - '0'.toNat)) n) bound := by
  induction digits generalizing n with
  | nil => rfl
  | cons c digits ih =>
    rw [List.foldl_cons, List.foldl_cons, ← ih]
    congr 1
    omega

theorem valueUpTo_eq (bound : Nat) (digits : Text) :
    valueUpTo bound digits = min (value digits) bound := by
  have h := foldl_min bound 0 digits
  rwa [Nat.zero_min] at h

/-- Reads one or more digits of a value at most `bound`. -/
def readDigits? (bound : Nat) (t : Text) : Option Nat :=
  if t.isEmpty || !t.all Char.isDigit then none
  else (some (valueUpTo (bound + 1) t)).filter (· ≤ bound)

/-- Reads a numeral of a value at most `bound`, with an optional plus sign and any number of
leading zeros. -/
def read? (bound : Nat) (t : Text) : Option Nat :=
  match t with
  | '+' :: rest => readDigits? bound rest
  | _ => readDigits? bound t

/-- The largest value of sixteen bits. -/
def maxU16 : Nat := 65535

/-- The largest value of sixty-four bits. -/
def maxU64 : Nat := 18446744073709551615

end TermSession.Decimal
