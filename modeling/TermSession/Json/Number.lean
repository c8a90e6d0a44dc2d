import TermSession.Text.Decimal

/-!
# JSON numbers

A numeral without fraction and exponent that fits sixty-four bits, signed or unsigned, is an
integer; any other numeral, and `-0`, is a binary floating-point number.

* `Json.Number`: an integer, or the bits of a floating-point number;
* `Json.Numeral`: a numeral taken apart by the grammar;
* `Json.Numeral.number?`: its number, if it is in range.
-/

namespace TermSession.Json

/-- A number: an integer, or a floating-point number given by its bits. -/
inductive Number where
  | int (n : Int)
  | float (bits : UInt64)
  deriving DecidableEq, Repr, Inhabited

/-- The parts of a numeral.  A missing fraction or exponent is `none`. -/
structure Numeral where
  negative : Bool
  whole : Text
  fraction : Option Text
  /-- Is the exponent negative, and its digits. -/
  exponent : Option (Bool × Text)
  deriving DecidableEq, Repr, Inhabited

namespace Numeral

/-- The digits at the front of a text and what follows them. -/
def digits (t : Text) : Text × Text := (t.takeWhile Char.isDigit, t.dropWhile Char.isDigit)

/-- A whole part is `0` or starts with another digit. -/
def isWhole : Text → Bool
  | [] => false
  | '0' :: rest => rest.isEmpty
  | _ => true

/-- The optional fraction: a point and at least one digit. -/
def readFraction : Text → Option (Option Text × Text)
  | '.' :: rest =>
    let (ds, rest) := digits rest
    if ds.isEmpty then none else some (some ds, rest)
  | rest => some (none, rest)

/-- The optional exponent: `e` or `E`, an optional sign and at least one digit, to the end. -/
def readExponent : Text → Option (Option (Bool × Text))
  | [] => some none
  | e :: rest =>
    if e = 'e' || e = 'E' then
      let (negative, ds) := match rest with
        | '-' :: ds => (true, ds)
        | '+' :: ds => (false, ds)
        | ds => (false, ds)
      if ds.isEmpty || !ds.all Char.isDigit then none else some (some (negative, ds))
    else none

/-- Takes a whole text apart as a numeral. -/
def read? (t : Text) : Option Numeral := do
  let (negative, t) := match t with
    | '-' :: t => (true, t)
    | t => (false, t)
  let (whole, t) := digits t
  if isWhole whole then
    let (fraction, t) ← readFraction t
    let exponent ← readExponent t
    some { negative, whole, fraction, exponent }
  else none

/-- Takes digits into a significand for as long as it fits sixty-four bits; gives the significand
and the digits left over. -/
def accumulate (significand : Nat) : Text → Nat × Text
  | [] => (significand, [])
  | d :: ds =>
    let next := 10 * significand + (d.toNat - '0'.toNat)
    if next ≤ Decimal.maxU64 then accumulate next ds else (significand, d :: ds)

/-- The power of ten, for exponents up to 308. -/
def powerOfTen (e : Nat) : Float := Float.ofScientific 1 false e

/-- A floating-point number times a power of ten; `none` beyond the largest finite one.  Far
negative exponents are taken in steps of 308. -/
def scale (f : Float) (e : Int) : Option Float :=
  if 0 ≤ e then
    if e ≤ 308 then
      let g := f * powerOfTen e.toNat
      if g.isInf then none else some g
    else if f == 0.0 then some f else none
  else if -308 ≤ e then some (f / powerOfTen (-e).toNat)
  else if f == 0.0 then some f
  else scale (f / powerOfTen 308) (e + 308)
termination_by (-e).toNat
decreasing_by omega

/-- The largest exponent that is taken at its value. -/
def maxExponent : Nat := 2147483647

/-- The floating-point number of a numeral. -/
def float? (n : Numeral) : Option Float := do
  let (significand, dropped) := accumulate 0 n.whole
  let fraction := n.fraction.getD []
  let (significand, unused) := accumulate significand fraction
  let base : Int := dropped.length - (fraction.length - unused.length : Nat)
  let (negative, ds) := n.exponent.getD (false, [])
  let e := Decimal.valueUpTo (maxExponent + 1) ds
  let f := significand.toUInt64.toFloat
  let magnitude ←
    if e ≤ maxExponent then scale f (if negative then base - e else base + e)
    else if negative || significand = 0 then some 0.0
    else none
  some (if n.negative then -magnitude else magnitude)

/-- The integer of a numeral without fraction and exponent, if it fits. -/
def int? (n : Numeral) : Option Int :=
  if n.fraction.isSome || n.exponent.isSome then none
  else
    let m := Decimal.valueUpTo (Decimal.maxU64 + 1) n.whole
    if n.negative then
      if m = 0 || 9223372036854775808 < m then none else some (-(m : Int))
    else if m ≤ Decimal.maxU64 then some m
    else none

/-- The number of a numeral; `none` beyond the largest finite floating-point number. -/
def number? (n : Numeral) : Option Number :=
  match n.int? with
  | some i => some (.int i)
  | none => n.float?.map fun f => .float f.toBits

end Numeral

end TermSession.Json
