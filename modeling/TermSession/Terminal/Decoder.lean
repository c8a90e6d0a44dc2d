import TermSession.Text.Decimal
import TermSession.Text.Utf8
import TermSession.Terminal.Resize

/-!
# Control sequences

The terminal reads its input byte by byte.  `Decoder` is what it remembers between two bytes: a
character of which some bytes are still missing, or how far it is into a control sequence.

* `OscBuffer`, `OscCommand`: operating system commands and the bytes collected for one;
* `Marks`, `Decoder`: the states between two bytes;
* `Screen.execute`: what a control sequence does to the screen;
* `OscBuffer.finish`: what the end of an operating system command does.
-/

namespace TermSession

/-- A complete operating system command: `ESC ] code ; payload` and a terminator. -/
structure OscCommand where
  code : Nat
  payload : Text
  deriving DecidableEq, Repr, Inhabited

/-- The bytes of an operating system command so far, newest first.  A command longer than
`OscBuffer.limit` bytes overflows. -/
structure OscBuffer where
  newest : List UInt8 := []
  size : Nat := 0
  overflowed : Bool := false
  deriving DecidableEq, Repr, Inhabited

namespace OscBuffer

/-- The most bytes that are kept. -/
def limit : Nat := 1048576

/-- Adds a byte. -/
def push (b : OscBuffer) (byte : UInt8) : OscBuffer :=
  if b.size < limit then { b with newest := byte :: b.newest, size := b.size + 1 }
  else { b with overflowed := true }

/-- The bytes in order. -/
def bytes (b : OscBuffer) : List UInt8 := b.newest.reverse

end OscBuffer

/-- Splits a text at the first occurrence of a separator; `none` if there is none. -/
def Text.splitOnce (sep : Char) (t : Text) : Option (Text × Text) :=
  match t.span (· ≠ sep) with
  | (_, []) => none
  | (before, _ :: after) => some (before, after)

namespace OscCommand

/-- The command a text stands for: a numeral of sixteen bits, and the payload after the first
semicolon. -/
def read? (t : Text) : Option OscCommand :=
  let (code, payload) := (Text.splitOnce ';' t).getD (t, [])
  (Decimal.read? Decimal.maxU16 code).map (⟨·, payload⟩)

end OscCommand

/-- Which marks a control sequence carries besides its parameters. -/
structure Marks where
  /-- A question mark. -/
  isPrivate : Bool := false
  /-- Any other mark or intermediate byte. -/
  isOther : Bool := false
  deriving DecidableEq, Repr, Inhabited

/-- What the terminal remembers between two bytes.  Closed parameters are kept newest first. -/
inductive Decoder where
  /-- Plain text; `held` are the bytes of an unfinished character. -/
  | ground (held : List UInt8)
  /-- After ESC. -/
  | escape
  /-- After ESC and intermediate bytes. -/
  | escapeIntermediate
  /-- After `ESC [` and marks. -/
  | csiEntry (marks : Marks)
  /-- Inside the parameters. -/
  | csiParam (marks : Marks) (closed : List Nat) (current : Option Nat)
  /-- After intermediate bytes. -/
  | csiIntermediate (marks : Marks) (closed : List Nat)
  /-- After `ESC ]`. -/
  | oscString (buffer : OscBuffer)
  /-- After an ESC inside an operating system command. -/
  | oscEscape (buffer : OscBuffer)
  deriving DecidableEq, Repr

namespace Decoder

/-- Plain text with nothing pending. -/
def idle : Decoder := ground []

instance : Inhabited Decoder := ⟨idle⟩

/-- The bytes of an unfinished character. -/
def held : Decoder → List UInt8
  | ground held => held
  | _ => []

/-- Extends a parameter by a digit; a parameter never exceeds sixteen bits. -/
def addDigit (current : Option Nat) (digit : Nat) : Nat :=
  min (10 * current.getD 0 + digit) Decimal.maxU16

/-- The parameters with the one being read closed, newest first. -/
def close (closed : List Nat) : Option Nat → List Nat
  | some p => p :: closed
  | none => closed

end Decoder

namespace Screen

/-- What the control sequence with the given final character does.  A missing count is one, and so
is a count of zero.  Sequences with private marks only switch private modes; those of any other
kind are read and have no effect. -/
def execute (s : Screen) (isPrivate : Bool) (final : Char) (params : List Nat) : Screen :=
  let first := params.head?
  let second := params[1]?
  let count := max (first.getD 1) 1
  if isPrivate then
    match final with
    | 'h' => params.foldl (fun s p => s.setPrivateMode p true) s
    | 'l' => params.foldl (fun s p => s.setPrivateMode p false) s
    | _ => s
  else
    match final with
    | 'A' => s.cursorUp count
    | 'B' | 'e' => s.cursorDown count
    | 'C' | 'a' => s.cursorForward count
    | 'D' => s.cursorBackward count
    | 'E' => (s.cursorDown count).carriageReturn
    | 'F' => (s.cursorUp count).carriageReturn
    | 'G' | '\x60' => s.cursorColumn (first.getD 1)
    | 'H' | 'f' => s.cursorPosition (first.getD 1) (second.getD 1)
    | 'd' => s.cursorRow (first.getD 1)
    | 'J' => s.eraseDisplay (first.getD 0)
    | 'K' => s.eraseLine (first.getD 0)
    | 'L' => s.insertLines count
    | 'M' => s.deleteLines count
    | '@' => s.insertChars count
    | 'P' => s.deleteChars count
    | 'X' => s.eraseChars count
    | 'S' => s.scrollUp count
    | 'T' => s.scrollDown count
    | 'r' => s.setMargins (first.getD 1) (second.getD 0)
    | 's' => s.saveCursor
    | 'u' => s.restoreCursor
    | 'h' => if params.contains 20 then s.setLineFeedNewLine true else s
    | 'l' => if params.contains 20 then s.setLineFeedNewLine false else s
    | _ => s

/-- What a control character does to the screen.  Vertical tab and form feed are line feeds. -/
def control (s : Screen) (byte : UInt8) : Screen :=
  if byte = 0x08 then s.backspace
  else if byte = 0x09 then s.tab
  else if 0x0A ≤ byte && byte ≤ 0x0C then
    if s.modes.lineFeedNewLine then s.lineFeed.carriageReturn else s.lineFeed
  else if byte = 0x0D then s.carriageReturn
  else s

/-- What the sequence of ESC and one more byte does to the screen. -/
def escaped (s : Screen) (byte : UInt8) : Screen :=
  match Char.ofNat byte.toNat with
  | '7' => s.saveCursor
  | '8' => s.restoreCursor
  | 'D' => s.lineFeed
  | 'E' => s.carriageReturn.lineFeed
  | 'M' => s.reverseIndex
  | 'c' => blank s.size
  | _ => s

end Screen

/-- The end of an operating system command: 0 and 2 set the title, 1 does nothing, all others are
handed out.  A command that overflowed, or without a code, is dropped. -/
def OscBuffer.finish (b : OscBuffer) (s : Screen) : Screen × Option OscCommand :=
  if b.overflowed then (s, none)
  else
    match OscCommand.read? (Utf8.lossy b.bytes) with
    | none => (s, none)
    | some command =>
      if command.code = 0 || command.code = 2 then ({ s with title := command.payload }, none)
      else if command.code = 1 then (s, none)
      else (s, some command)

end TermSession
