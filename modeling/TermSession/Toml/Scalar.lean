import TermSession.Text.Decimal
import TermSession.Text.Hex
import TermSession.Toml.Value

/-!
# TOML scalars

The values that are single words: booleans, integers in four bases, floating-point numbers, dates
and times.  `Value.ofWord?` tells them apart.
-/

namespace TermSession.Toml

/-! ### Digits in groups -/

/-- Are these digits, which may have single underscores between them? -/
def areGrouped (isDigit : Char → Bool) : Text → Bool
  | [] => false
  | [c] => isDigit c
  | c :: '_' :: rest => isDigit c && areGrouped isDigit rest
  | c :: rest => isDigit c && areGrouped isDigit rest

/-- Digits that may have single underscores between them, without the underscores. -/
def ungroup? (isDigit : Char → Bool) (t : Text) : Option Text :=
  if areGrouped isDigit t then some (t.filter (· ≠ '_')) else none

/-- Is this a digit, or an underscore between digits? -/
def isGrouped (c : Char) : Bool := c.isDigit || c = '_'

/-- The digits of a decimal integer without sign; a leading zero stands alone. -/
def whole? (t : Text) : Option Text :=
  match t with
  | ['0'] => some ['0']
  | '0' :: _ => none
  | _ => ungroup? Char.isDigit t

/-- An optional sign, and what follows it. -/
def sign : Text → Bool × Text
  | '-' :: rest => (true, rest)
  | '+' :: rest => (false, rest)
  | rest => (false, rest)

/-! ### Integers -/

/-- The largest integer. -/
def maxInt : Nat := 9223372036854775807

/-- The number that digits up to `f` stand for in a base, or `bound` if it is larger. -/
def valueInBase (base bound : Nat) (digits : Text) : Nat :=
  digits.foldl (fun n c => min (base * n + (Hex.digit? c).getD 0) bound) 0

/-- An integer in another base than ten. -/
def based? (base : Nat) (digits : Text) : Option Int := do
  let ds ← ungroup? (fun c => (Hex.digit? c).any (· < base)) digits
  let n := valueInBase base (maxInt + 1) ds
  if n ≤ maxInt then some n else none

/-- An integer of sixty-four bits. -/
def int? (t : Text) : Option Int :=
  match t with
  | '0' :: 'x' :: digits => based? 16 digits
  | '0' :: 'o' :: digits => based? 8 digits
  | '0' :: 'b' :: digits => based? 2 digits
  | _ => do
    let (negative, digits) := sign t
    let n := Decimal.valueUpTo (maxInt + 2) (← whole? digits)
    if negative then if n ≤ maxInt + 1 then some (-(n : Int)) else none
    else if n ≤ maxInt then some n
    else none

/-! ### Floating-point numbers -/

/-- The least number that rounds to infinity in binary floating point. -/
def infinityBound : Nat := Nat.pow 2 1024 - Nat.pow 2 970

/-- How many decimal digits that number has. -/
def infinityDigits : Nat := 309

/-- Does a number round to infinity?  It is given by its digits and how many of them stand before
the point, which may also be to the left or to the right of them all. -/
def roundsToInfinity (digits : Text) (point : Int) : Bool :=
  let significant := digits.dropWhile (· = '0')
  let point := point - (digits.length - significant.length : Nat)
  if significant.isEmpty || point < infinityDigits then false
  else if infinityDigits < point then true
  else
    let padded := significant ++ List.replicate infinityDigits '0'
    infinityBound ≤ Decimal.value (padded.take infinityDigits)

/-- An exponent that comes to this is as large as it gets. -/
def exponentLimit : Nat := 65536

/-- The value of the digits of an exponent.  Digits after those that come to the limit are passed
over, so that `1000000` counts as `100000`. -/
def exponentValue (digits : Text) : Nat :=
  digits.foldl (fun n c => if n < exponentLimit then 10 * n + (c.toNat - '0'.toNat) else n) 0

/-- The exponent of a floating-point number, up to the end. -/
def exponent? : Text → Option Int
  | [] => some 0
  | c :: rest =>
    if c = 'e' || c = 'E' then do
      let (negative, digits) := sign rest
      let n := exponentValue (← ungroup? Char.isDigit digits)
      some (if negative then -(n : Int) else n)
    else none

/-- The digits of the fraction and the exponent, at least one of which must be there. -/
def fraction? : Text → Option (Text × Int)
  | '.' :: rest => do
    let digits ← ungroup? Char.isDigit (rest.takeWhile isGrouped)
    some (digits, ← exponent? (rest.dropWhile isGrouped))
  | [] => none
  | rest => (exponent? rest).map ([], ·)

/-- Is this a floating-point number?  One that rounds to positive infinity is none. -/
def isFloat (t : Text) : Bool :=
  let (negative, rest) := sign t
  if rest = "inf".toList || rest = "nan".toList then true
  else
    match whole? (rest.takeWhile isGrouped), fraction? (rest.dropWhile isGrouped) with
    | some whole, some (fraction, e) =>
      negative || !roundsToInfinity (whole ++ fraction) (whole.length + e)
    | _, _ => false

/-! ### Dates and times -/

/-- The number written by exactly these digits, if it is in a range. -/
def field? (least most : Nat) (digits : Text) : Option Nat :=
  (Decimal.readDigits? most digits).filter (least ≤ ·)

/-- The days of a month. -/
def daysIn (year month : Nat) : Nat :=
  if month = 2 then
    if year % 4 = 0 && (year % 100 ≠ 0 || year % 400 = 0) then 29 else 28
  else if month = 4 || month = 6 || month = 9 || month = 11 then 30
  else 31

/-- What follows a date at the front of a text. -/
def afterDate? : Text → Option Text
  | y1 :: y2 :: y3 :: y4 :: '-' :: m1 :: m2 :: '-' :: d1 :: d2 :: rest => do
    let year ← field? 0 9999 [y1, y2, y3, y4]
    let month ← field? 1 12 [m1, m2]
    let _ ← field? 1 (daysIn year month) [d1, d2]
    some rest
  | _ => none

/-- What follows the digits of a fraction of a second. -/
def afterFraction? : Text → Option Text
  | '.' :: rest =>
    if (rest.takeWhile Char.isDigit).isEmpty then none else some (rest.dropWhile Char.isDigit)
  | rest => some rest

/-- What follows a time at the front of a text.  Seconds may be sixty. -/
def afterTime? : Text → Option Text
  | h1 :: h2 :: ':' :: m1 :: m2 :: ':' :: s1 :: s2 :: rest => do
    let _ ← field? 0 23 [h1, h2]
    let _ ← field? 0 59 [m1, m2]
    let _ ← field? 0 60 [s1, s2]
    afterFraction? rest
  | _ => none

/-- Is this nothing, or an offset from universal time? -/
def isOffset : Text → Bool
  | [] | ['Z'] | ['z'] => true
  | [s, h1, h2, ':', m1, m2] =>
    (s = '+' || s = '-') && (field? 0 23 [h1, h2]).isSome && (field? 0 59 [m1, m2]).isSome
  | _ => false

/-- Is this a date alone? -/
def isDate (t : Text) : Bool := afterDate? t = some []

/-- Is this a date, a time, or both with an optional offset? -/
def isDateTime (t : Text) : Bool :=
  match afterDate? t with
  | none => afterTime? t = some []
  | some [] => true
  | some (c :: rest) => (c = 'T' || c = 't' || c = ' ') && (afterTime? rest).any isOffset

/-! ### Words -/

/-- The value of a word that is no string. -/
def Value.ofWord? (t : Text) : Option Value :=
  if t = "true".toList then some (.bool true)
  else if t = "false".toList then some (.bool false)
  else
    match int? t with
    | some n => some (.int n)
    | none =>
      if isFloat t then some (.float t)
      else if isDateTime t then some (.date t)
      else none

end TermSession.Toml
