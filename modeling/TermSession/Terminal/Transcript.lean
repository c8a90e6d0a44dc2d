import TermSession.Text.Decimal
import TermSession.Terminal.Resize

/-!
# Transcripts

A transcript is text that, written to a fresh terminal of the same size, shows the same rows: the
scrollback and the grid line by line, then a cursor position.
-/

namespace TermSession.Screen

/-- One more than the index of the last line that shows anything. -/
def lastShown (lines : List Text) : Nat :=
  (lines.reverse.dropWhile List.isEmpty).length

/-- The lines a transcript holds.  Without scrollback, lines below both the last text and the
cursor are left out. -/
def transcriptLines (s : Screen) : List Text :=
  let lines := s.scrollbackLines ++ s.screenLines
  if s.scrollback.size = 0 then lines.take (max (lastShown lines) (s.cursor.row + 1)) else lines

/-- The control sequence that puts the cursor at a row and a column, counted from one. -/
def positionSequence (row col : Nat) : Text :=
  ['\x1b', '['] ++ Decimal.render row ++ [';'] ++ Decimal.render col ++ ['H']

/-- The grid and scrollback as text that replays to the same rows and cursor. -/
def transcript (s : Screen) : Text :=
  List.intercalate ['\r', '\n'] s.transcriptLines
    ++ positionSequence (s.cursor.row + 1) (s.cursor.col + 1)

end TermSession.Screen
