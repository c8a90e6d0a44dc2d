import TermSession.Text.Width

/-!
# UTF-8

* `Utf8.encode`: the bytes of a text;
* `Utf8.decode?`: the character written by exactly the given bytes, if they are well formed;
* `Utf8.announced`: how long a sequence its first byte announces;
* `Utf8.read?`: the text of well-formed bytes;
* `Utf8.lossy`: the text of any bytes, where each maximal ill-formed piece becomes U+FFFD.
-/

namespace TermSession.Utf8

/-- The replacement character U+FFFD. -/
def replacement : Char := '\uFFFD'

/-- The bytes of a text. -/
def encode (t : Text) : List UInt8 := t.flatMap String.utf8EncodeChar

/-- A byte `10xxxxxx`. -/
def isContinuation (b : UInt8) : Bool := 0x80 ≤ b && b < 0xC0

/-- The character with code `n`, when `n` is at least `least` and a Unicode scalar value. -/
def scalar? (least n : Nat) : Option Char :=
  if h : n.isValidChar then if least ≤ n then some (Char.ofNatAux n h) else none else none

/-- The character that exactly these bytes encode.  Overlong forms, surrogates and codes above
U+10FFFF encode nothing. -/
def decode? : List UInt8 → Option Char
  | [a] => if a < 0x80 then scalar? 0 a.toNat else none
  | [a, b] =>
    if 0xC0 ≤ a && a < 0xE0 && isContinuation b then
      scalar? 0x80 ((a.toNat - 0xC0) * 64 + (b.toNat - 0x80))
    else none
  | [a, b, c] =>
    if 0xE0 ≤ a && a < 0xF0 && isContinuation b && isContinuation c then
      scalar? 0x800 (((a.toNat - 0xE0) * 64 + (b.toNat - 0x80)) * 64 + (c.toNat - 0x80))
    else none
  | [a, b, c, d] =>
    if 0xF0 ≤ a && a < 0xF8 && isContinuation b && isContinuation c && isContinuation d then
      scalar? 0x10000
        ((((a.toNat - 0xF0) * 64 + (b.toNat - 0x80)) * 64 + (c.toNat - 0x80)) * 64
          + (d.toNat - 0x80))
    else none
  | _ => none

/-- The length of the sequence that a byte above U+007F opens; `none` if it opens none. -/
def announced (lead : UInt8) : Option Nat :=
  if 0xC0 ≤ lead && lead < 0xE0 then some 2
  else if 0xE0 ≤ lead && lead < 0xF0 then some 3
  else if 0xF0 ≤ lead && lead < 0xF8 then some 4
  else none

/-- May `b` be the second byte of a well-formed sequence that `lead` opens? -/
def isSecond (lead b : UInt8) : Bool :=
  if lead = 0xE0 then 0xA0 ≤ b && b < 0xC0
  else if lead = 0xED then 0x80 ≤ b && b < 0xA0
  else if lead = 0xF0 then 0x90 ≤ b && b < 0xC0
  else if lead = 0xF4 then 0x80 ≤ b && b < 0x90
  else 0xC2 ≤ lead && lead < 0xF5 && isContinuation b

/-- The longest piece of `rest` that continues the sequence opened by `lead`. -/
def continuation (lead : UInt8) : List UInt8 → List UInt8
  | [] => []
  | b :: rest =>
    if isSecond lead b then
      b :: (rest.take ((announced lead).getD 2 - 2)).takeWhile isContinuation
    else []

/-- The characters of any bytes, after those already read (`found`, newest first). -/
def scanAfter (found : List (Option Char)) : List UInt8 → List (Option Char)
  | [] => found.reverse
  | b :: rest =>
    let more := continuation b rest
    scanAfter (decode? (b :: more) :: found) (rest.drop more.length)
termination_by bytes => bytes.length
decreasing_by simp only [List.length_drop, List.length_cons]; omega

/-- The characters of any bytes.  A maximal piece that opens a sequence and does not complete it,
or a byte that opens none, is no character. -/
def scan (bytes : List UInt8) : List (Option Char) := scanAfter [] bytes

/-- The text of any bytes, with U+FFFD for what is no character. -/
def lossy (bytes : List UInt8) : Text := (scan bytes).map (·.getD replacement)

/-- The text that exactly these bytes encode, if they are well formed. -/
def read? (bytes : List UInt8) : Option Text :=
  let found := scan bytes
  if found.all Option.isSome then some (found.filterMap id) else none

@[simp] theorem encode_nil : encode [] = [] := rfl

@[simp] theorem encode_append (s t : Text) : encode (s ++ t) = encode s ++ encode t := by
  simp [encode]

end TermSession.Utf8
