import TermSession.Terminal.Scrollback
import TermSession.Text.Decimal

/-!
# The screen

The grid of a terminal with its cursor, scrollback, modes and title, and the operations that only
move the cursor or switch a mode.  Counts and positions come from control sequences and may be
anything; every operation brings the cursor back onto the grid.

* `Size`, `Cursor`, `Modes`, `Margins`, `Screen`;
* `Screen.blank`: a fresh screen;
* cursor motion, saving and restoring, modes, margins.
-/

namespace TermSession

/-- Dimensions in character cells. -/
structure Size where
  rows : Nat
  cols : Nat
  deriving DecidableEq, Repr, Inhabited

namespace Size

/-- A size as columns, a cross and rows. -/
def render (s : Size) : Text := Decimal.render s.cols ++ 'x' :: Decimal.render s.rows

/-- Are both dimensions positive? -/
def isPositive (s : Size) : Bool := 0 < s.rows && 0 < s.cols

/-- The nearest size with positive dimensions. -/
def atLeastOne (s : Size) : Size := ⟨max s.rows 1, max s.cols 1⟩

theorem atLeastOne_pos (s : Size) : 0 < s.atLeastOne.rows ∧ 0 < s.atLeastOne.cols := by
  simp only [atLeastOne]
  omega

theorem atLeastOne_eq {s : Size} (hr : 0 < s.rows) (hc : 0 < s.cols) : s.atLeastOne = s := by
  simp [atLeastOne, Nat.max_eq_left hr, Nat.max_eq_left hc]

end Size

/-- The cursor.  `wrapPending` marks a write at the right margin whose wrap waits for the next
printable character. -/
structure Cursor where
  row : Nat := 0
  col : Nat := 0
  wrapPending : Bool := false
  deriving DecidableEq, Repr, Inhabited

/-- The modes that output can switch. -/
structure Modes where
  autoWrap : Bool := true
  applicationCursor : Bool := false
  lineFeedNewLine : Bool := false
  deriving DecidableEq, Repr, Inhabited

/-- The first and last row of the scroll region. -/
structure Margins where
  top : Nat
  bottom : Nat
  deriving DecidableEq, Repr, Inhabited

/-- Everything a terminal shows or remembers for showing. -/
structure Screen where
  size : Size
  lines : Array Row
  scrollback : Scrollback := .empty
  cursor : Cursor := {}
  savedCursor : Option Cursor := none
  modes : Modes := {}
  title : Text := []
  margins : Margins
  deriving DecidableEq, Repr

namespace Screen

/-- Blank lines for a grid. -/
def blankLines (size : Size) : Array Row := Array.replicate size.rows (Row.blank size.cols)

/-- Margins around the whole grid. -/
def fullMargins (size : Size) : Margins := ⟨0, size.rows - 1⟩

/-- A fresh screen; both dimensions are at least one. -/
def blank (size : Size) : Screen :=
  { size := size.atLeastOne
    lines := blankLines size.atLeastOne
    margins := fullMargins size.atLeastOne }

instance : Inhabited Screen := ⟨blank ⟨1, 1⟩⟩

/-! ### Views -/

/-- What each row of the grid shows. -/
def screenLines (s : Screen) : List Text := s.lines.toList.map Row.text

/-- What each row above the grid shows, oldest first. -/
def scrollbackLines (s : Screen) : List Text := s.scrollback.toList.map Row.text

/-! ### Cursor motion -/

/-- Cancels a wrap that waits. -/
def cancelWrap (s : Screen) : Screen := { s with cursor.wrapPending := false }

/-- To column zero. -/
def carriageReturn (s : Screen) : Screen := { s.cancelWrap with cursor.col := 0 }

/-- One column to the left. -/
def backspace (s : Screen) : Screen := { s.cancelWrap with cursor.col := s.cursor.col - 1 }

/-- To the next multiple of eight, or the last column. -/
def tab (s : Screen) : Screen :=
  { s.cancelWrap with cursor.col := min ((s.cursor.col / 8 + 1) * 8) (s.size.cols - 1) }

/-- Up by `n` rows. -/
def cursorUp (s : Screen) (n : Nat) : Screen :=
  { s.cancelWrap with cursor.row := s.cursor.row - n }

/-- Down by `n` rows. -/
def cursorDown (s : Screen) (n : Nat) : Screen :=
  { s.cancelWrap with cursor.row := min (s.cursor.row + n) (s.size.rows - 1) }

/-- Right by `n` columns. -/
def cursorForward (s : Screen) (n : Nat) : Screen :=
  { s.cancelWrap with cursor.col := min (s.cursor.col + n) (s.size.cols - 1) }

/-- Left by `n` columns. -/
def cursorBackward (s : Screen) (n : Nat) : Screen :=
  { s.cancelWrap with cursor.col := s.cursor.col - n }

/-- To a column, counted from one. -/
def cursorColumn (s : Screen) (col : Nat) : Screen :=
  { s.cancelWrap with cursor.col := min (col - 1) (s.size.cols - 1) }

/-- To a row, counted from one. -/
def cursorRow (s : Screen) (row : Nat) : Screen :=
  { s.cancelWrap with cursor.row := min (row - 1) (s.size.rows - 1) }

/-- To a row and a column, counted from one. -/
def cursorPosition (s : Screen) (row col : Nat) : Screen := (s.cursorRow row).cursorColumn col

/-- Remembers the cursor. -/
def saveCursor (s : Screen) : Screen := { s with savedCursor := some s.cursor }

/-- Back to the remembered cursor, brought onto the grid. -/
def restoreCursor (s : Screen) : Screen :=
  match s.savedCursor with
  | none => s
  | some c =>
    { s with cursor :=
      { c with row := min c.row (s.size.rows - 1), col := min c.col (s.size.cols - 1) } }

/-! ### Modes and margins -/

/-- Switches a private mode: 1 selects application cursor keys, 7 automatic wrapping. -/
def setPrivateMode (s : Screen) (mode : Nat) (on : Bool) : Screen :=
  if mode = 1 then { s with modes.applicationCursor := on }
  else if mode = 7 then { s with modes.autoWrap := on }
  else s

/-- Switches whether a line feed also returns to column zero. -/
def setLineFeedNewLine (s : Screen) (on : Bool) : Screen :=
  { s with modes.lineFeedNewLine := on }

/-- Sets the scroll region, rows counted from one and a zero `bottom` standing for the last row.
Margins that leave less than two rows select the whole grid.  The cursor goes home. -/
def setMargins (s : Screen) (top bottom : Nat) : Screen :=
  let last := (if bottom = 0 then s.size.rows else min bottom s.size.rows) - 1
  let margins := if top - 1 < last then ⟨top - 1, last⟩ else fullMargins s.size
  { s with margins }.cursorPosition 1 1

end Screen

end TermSession
