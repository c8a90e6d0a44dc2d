import TermSession.Terminal.Decoder
import TermSession.Terminal.Transcript

/-!
# Terminal surfaces

A surface is a screen and the decoder of the bytes written to it.

* `Surface.feed`: one byte;
* `Surface.write`: bytes in order, with the operating system commands they complete;
* `write_append`: writing in two pieces is writing at once.
-/

namespace TermSession

/-- A screen with the decoder that feeds it. -/
structure Surface where
  screen : Screen
  decoder : Decoder := .idle
  deriving DecidableEq, Repr, Inhabited

namespace Surface

/-- A fresh surface. -/
def new (size : Size) : Surface := { screen := .blank size }

/-- Its dimensions. -/
def size (s : Surface) : Size := s.screen.size

/-- Gives the surface new dimensions. -/
def resize (s : Surface) (size : Size) : Surface := { s with screen := s.screen.resize size }

/-- Blanks screen and scrollback. -/
def clear (s : Surface) : Surface := { s with screen := s.screen.clear }

/-- Text that replays to the same rows and cursor. -/
def transcript (s : Surface) : Text := s.screen.transcript

/-- Shows an unfinished character as U+FFFD. -/
def flush (s : Surface) : Surface :=
  match s.decoder with
  | .ground (_ :: _) => { screen := s.screen.put Utf8.replacement, decoder := .idle }
  | _ => s

/-- A control character outside operating system commands. -/
def control (s : Surface) (byte : UInt8) : Surface :=
  if byte = 0x1B then { s with decoder := .escape }
  else if byte = 0x18 || byte = 0x1A then { s with decoder := .idle }
  else { s with screen := s.screen.control byte }

/-- A byte of a character above U+007F, after the bytes `held`. -/
def collect (s : Surface) (held : List UInt8) (byte : UInt8) : Surface :=
  let bytes := held ++ [byte]
  if (bytes.head?.bind Utf8.announced) = some bytes.length then
    { screen := s.screen.put ((Utf8.decode? bytes).getD Utf8.replacement), decoder := .idle }
  else { s with decoder := .ground bytes }

/-- A byte of plain text. -/
def text (s : Surface) (byte : UInt8) : Surface :=
  if byte < 0x80 then
    let s := s.flush
    if byte = 0x7F then s else { s with screen := s.screen.put (Char.ofNat byte.toNat) }
  else if s.decoder.held.isEmpty || !Utf8.isContinuation byte then
    let s := s.flush
    match Utf8.announced byte with
    | some _ => s.collect [] byte
    | none => { s with screen := s.screen.put Utf8.replacement }
  else s.collect s.decoder.held byte

/-- The byte after ESC. -/
def escape (s : Surface) (byte : UInt8) : Surface :=
  let decoder :=
    if byte = 0x5B then .csiEntry {}
    else if byte = 0x5D then .oscString {}
    else if 0x20 ≤ byte && byte ≤ 0x2F then .escapeIntermediate
    else .idle
  { screen := s.screen.escaped byte, decoder }

/-- The final byte of a control sequence.  Marks other than the question mark make a sequence that
has no effect, unless there is a question mark too. -/
def finish (s : Surface) (marks : Marks) (params : List Nat) (byte : UInt8) : Surface :=
  { screen :=
      if marks.isOther && !marks.isPrivate then s.screen
      else s.screen.execute marks.isPrivate (Char.ofNat byte.toNat) params
    decoder := .idle }

/-- A byte right after `ESC [` and marks. -/
def csiEntry (s : Surface) (marks : Marks) (byte : UInt8) : Surface :=
  if 0x30 ≤ byte && byte ≤ 0x39 then
    { s with decoder := .csiParam marks [] (some (byte.toNat - 0x30)) }
  else if byte = 0x3B then { s with decoder := .csiParam marks [0] none }
  else if byte = 0x3F then { s with decoder := .csiEntry { marks with isPrivate := true } }
  else if byte = 0x21 || byte = 0x3D || byte = 0x3E then
    { s with decoder := .csiEntry { marks with isOther := true } }
  else if 0x20 ≤ byte && byte ≤ 0x2F then
    { s with decoder := .csiIntermediate { marks with isOther := true } [] }
  else if 0x40 ≤ byte && byte ≤ 0x7E then s.finish marks [] byte
  else { s with decoder := .idle }

/-- A byte inside the parameters. -/
def csiParam (s : Surface) (marks : Marks) (closed : List Nat) (current : Option Nat)
    (byte : UInt8) : Surface :=
  if 0x30 ≤ byte && byte ≤ 0x39 then
    { s with decoder :=
      .csiParam marks closed (some (Decoder.addDigit current (byte.toNat - 0x30))) }
  else if byte = 0x3A || byte = 0x3B then
    { s with decoder := .csiParam marks (current.getD 0 :: closed) none }
  else if 0x20 ≤ byte && byte ≤ 0x2F then
    { s with decoder :=
      .csiIntermediate { marks with isOther := true } (Decoder.close closed current) }
  else if 0x40 ≤ byte && byte ≤ 0x7E then
    s.finish marks (Decoder.close closed current).reverse byte
  else { s with decoder := .idle }

/-- A byte after intermediate bytes. -/
def csiIntermediate (s : Surface) (marks : Marks) (closed : List Nat) (byte : UInt8) : Surface :=
  if 0x20 ≤ byte && byte ≤ 0x2F then s
  else if 0x40 ≤ byte && byte ≤ 0x7E then s.finish marks closed.reverse byte
  else { s with decoder := .idle }

/-- A byte inside an operating system command.  BEL ends it; ESC may. -/
def oscString (s : Surface) (buffer : OscBuffer) (byte : UInt8) : Surface × Option OscCommand :=
  if byte = 0x07 then
    let (screen, command) := buffer.finish s.screen
    ({ screen, decoder := .idle }, command)
  else if byte = 0x1B then ({ s with decoder := .oscEscape buffer }, none)
  else ({ s with decoder := .oscString (buffer.push byte) }, none)

/-- The byte after an ESC inside an operating system command, which the ESC has ended.  A
backslash completes the terminator; any other byte continues an escape sequence. -/
def oscEscape (s : Surface) (buffer : OscBuffer) (byte : UInt8) : Surface × Option OscCommand :=
  let (screen, command) := buffer.finish s.screen
  let s := { screen, decoder := .idle }
  (if byte = 0x5C then s else s.escape byte, command)

/-- Reads one byte; gives the operating system command that it completes, if any. -/
def feed (s : Surface) (byte : UInt8) : Surface × Option OscCommand :=
  match s.decoder with
  | .oscString buffer => s.oscString buffer byte
  | .oscEscape buffer => s.oscEscape buffer byte
  | decoder =>
    if byte < 0x20 then (s.flush.control byte, none)
    else
      match decoder with
      | .escape => (s.escape byte, none)
      | .escapeIntermediate =>
        (if byte ≤ 0x2F then s else { s with decoder := .idle }, none)
      | .csiEntry marks => (s.csiEntry marks byte, none)
      | .csiParam marks closed current => (s.csiParam marks closed current byte, none)
      | .csiIntermediate marks closed => (s.csiIntermediate marks closed byte, none)
      | _ => (s.text byte, none)

/-- Reads one byte and puts the command it completes before those already found. -/
def feedOnto : Surface × List OscCommand → UInt8 → Surface × List OscCommand
  | (s, found), byte =>
    let (s, command) := s.feed byte
    (s, command.toList ++ found)

/-- Reads bytes in order; gives the operating system commands they complete, in order. -/
def write (s : Surface) (bytes : List UInt8) : Surface × List OscCommand :=
  let (s, found) := bytes.foldl feedOnto (s, [])
  (s, found.reverse)

theorem foldl_feedOnto (bytes : List UInt8) (s : Surface) (found : List OscCommand) :
    bytes.foldl feedOnto (s, found) =
      ((bytes.foldl feedOnto (s, [])).1, (bytes.foldl feedOnto (s, [])).2 ++ found) := by
  induction bytes generalizing s found with
  | nil => rfl
  | cons b bytes ih =>
    simp only [List.foldl_cons, feedOnto]
    rw [ih, ih _ (_ ++ [])]
    simp

@[simp] theorem write_nil (s : Surface) : s.write [] = (s, []) := rfl

/-- Writing in two pieces is writing at once. -/
theorem write_append (s : Surface) (a b : List UInt8) :
    s.write (a ++ b) =
      (((s.write a).1.write b).1, (s.write a).2 ++ ((s.write a).1.write b).2) := by
  simp only [write, List.foldl_append]
  rw [foldl_feedOnto b]
  simp

end Surface

end TermSession
