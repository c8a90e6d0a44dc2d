import TermSession.Keyboard.Chord
import TermSession.Terminal.Screen
import TermSession.Text.Decimal
import TermSession.Text.Utf8

/-!
# Keys as terminal input

The bytes that a terminal sends for a key: text for characters, control codes with the control key
held, an ESC in front with alt held, and control sequences for the other keys.
-/

namespace TermSession

namespace Keyboard

/-- The control code of a character. -/
def controlCode? (c : Char) : Option UInt8 :=
  if 'a' ≤ c && c ≤ 'z' then some (UInt8.ofNat (c.toNat - 'a'.toNat + 1))
  else if 'A' ≤ c && c ≤ 'Z' then some (UInt8.ofNat (c.toNat - 'A'.toNat + 1))
  else
    match c with
    | '@' | '\x60' | ' ' | '2' => some 0x00
    | '[' | '3' => some 0x1B
    | '\\' | '4' => some 0x1C
    | ']' | '5' => some 0x1D
    | '^' | '~' | '6' => some 0x1E
    | '_' | '?' | '7' => some 0x1F
    | _ => none

/-- Puts an ESC in front when alt is held. -/
def withAlt (m : Modifiers) (bytes : List UInt8) : List UInt8 :=
  if m.alt then 0x1B :: bytes else bytes

/-- A character: its control code if control is held and it has one, else its UTF-8. -/
def character (c : Char) (m : Modifiers) : List UInt8 :=
  match (if m.ctrl then controlCode? c else none) with
  | some code => withAlt m [code]
  | none => withAlt m (Utf8.encode [c])

/-- The bytes ESC and `[`, and then a text. -/
def sequence (t : Text) : List UInt8 := 0x1B :: 0x5B :: Utf8.encode t

/-- A key that a letter names: `ESC [` or `ESC O` and the letter, or with modifiers their
parameter in between. -/
def letterKey (letter : Char) (m : Modifiers) (single : Bool) : List UInt8 :=
  if m = .empty then
    if single then 0x1B :: 0x4F :: Utf8.encode [letter] else sequence [letter]
  else sequence (['1', ';'] ++ Decimal.render m.parameter ++ [letter])

/-- A key that a number names: the number and a tilde, with modifiers their parameter in
between. -/
def numberKey (number : Nat) (m : Modifiers) : List UInt8 :=
  if m = .empty then sequence (Decimal.render number ++ ['~'])
  else sequence (Decimal.render number ++ [';'] ++ Decimal.render m.parameter ++ ['~'])

/-- A function key: four are named by letters, the next eight by numbers. -/
def functionKey (n : Nat) (m : Modifiers) : Option (List UInt8) :=
  match n with
  | 1 => some (letterKey 'P' m true)
  | 2 => some (letterKey 'Q' m true)
  | 3 => some (letterKey 'R' m true)
  | 4 => some (letterKey 'S' m true)
  | 5 => some (numberKey 15 m)
  | 6 => some (numberKey 17 m)
  | 7 => some (numberKey 18 m)
  | 8 => some (numberKey 19 m)
  | 9 => some (numberKey 20 m)
  | 10 => some (numberKey 21 m)
  | 11 => some (numberKey 23 m)
  | 12 => some (numberKey 24 m)
  | _ => none

end Keyboard

open Keyboard in
/-- The bytes a key sends.  Releases, keys with super held, and keys that mean nothing to a
terminal send none. -/
def KeyEvent.encode (e : KeyEvent) (modes : Modes) : Option (List UInt8) :=
  let m := e.modifiers
  if e.motion = .release || m.super then none
  else
    match e.code with
    | .char c => some (character c m)
    | .enter => some (if modes.lineFeedNewLine then [0x0D, 0x0A] else [0x0D])
    | .backspace => some (withAlt m [0x7F])
    | .tab => some [0x09]
    | .backTab => some (sequence ['Z'])
    | .escape => some [0x1B]
    | .up => some (letterKey 'A' m modes.applicationCursor)
    | .down => some (letterKey 'B' m modes.applicationCursor)
    | .right => some (letterKey 'C' m modes.applicationCursor)
    | .left => some (letterKey 'D' m modes.applicationCursor)
    | .home => some (letterKey 'H' m false)
    | .endKey => some (letterKey 'F' m false)
    | .pageUp => some (numberKey 5 m)
    | .pageDown => some (numberKey 6 m)
    | .insert => some (numberKey 2 m)
    | .delete => some (numberKey 3 m)
    | .function n => functionKey n m
    | .capsLock | .modifier _ | .other => none

end TermSession
