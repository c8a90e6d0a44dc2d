import TermSession.Terminal.Screen

/-!
# Editing the grid

Scrolling, writing characters, and erasing, inserting and deleting.

* `Screen.scrollUp`, `Screen.scrollDown`, `Screen.insertLines`, `Screen.deleteLines`,
  `Screen.lineFeed`, `Screen.reverseIndex`;
* `Screen.put`: writing one character, with the wrap at the right margin put off until the next;
* `Screen.eraseDisplay`, `Screen.eraseLine` and their like;
* `Screen.clear`.
-/

namespace TermSession

namespace Screen

/-- A blank row as wide as the grid. -/
def blankRow (s : Screen) : Row := Row.blank s.size.cols

/-- The rows that leave the region when it scrolls up by `n`: blank ones once all have left. -/
def leaving (s : Screen) (n : Nat) : Array Row :=
  let top := s.margins.top
  let stop := s.margins.bottom + 1
  s.lines.extract top (min (top + n) stop) ++ Array.replicate (n - (stop - top)) s.blankRow

/-- Deletes `n` lines of the scroll region at the line `top`. -/
def deleteAt (s : Screen) (top n : Nat) : Screen :=
  let row := s.blankRow
  { s with lines := Span.delete s.lines top (s.margins.bottom + 1) n row }

/-- Inserts `n` blank lines into the scroll region at the line `top`. -/
def insertAt (s : Screen) (top n : Nat) : Screen :=
  let row := s.blankRow
  { s with lines := Span.insert s.lines top (s.margins.bottom + 1) n row }

/-- Scrolls the region up by `n`.  Rows that leave the top of the grid go to the scrollback. -/
def scrollUp (s : Screen) (n : Nat) : Screen :=
  let top := s.margins.top
  let s :=
    if top = 0 then { s with scrollback := s.scrollback.pushAll (s.leaving n).toList } else s
  s.deleteAt top n

/-- Scrolls the region down by `n`. -/
def scrollDown (s : Screen) (n : Nat) : Screen := s.insertAt s.margins.top n

/-- Is the cursor inside the scroll region? -/
def inMargins (s : Screen) : Bool :=
  s.margins.top ≤ s.cursor.row && s.cursor.row ≤ s.margins.bottom

/-- Inserts `n` blank lines at the cursor; does nothing outside the scroll region. -/
def insertLines (s : Screen) (n : Nat) : Screen :=
  if s.inMargins then s.insertAt s.cursor.row n else s

/-- Deletes `n` lines at the cursor; does nothing outside the scroll region. -/
def deleteLines (s : Screen) (n : Nat) : Screen :=
  if s.inMargins then s.deleteAt s.cursor.row n else s

/-- One row down, scrolling at the bottom margin. -/
def lineFeed (s : Screen) : Screen :=
  let s := s.cancelWrap
  if s.cursor.row = s.margins.bottom then s.scrollUp 1
  else if s.cursor.row + 1 < s.size.rows then { s with cursor.row := s.cursor.row + 1 }
  else s

/-- One row up, scrolling at the top margin. -/
def reverseIndex (s : Screen) : Screen :=
  let s := s.cancelWrap
  if s.cursor.row = s.margins.top then s.scrollDown 1
  else { s with cursor.row := s.cursor.row - 1 }

/-! ### Writing -/

/-- Applies `f` to the row of the cursor. -/
@[inline] def updateRow (s : Screen) (f : Row → Row) : Screen :=
  let row := s.cursor.row
  { s with lines := s.lines.modify row f }

/-- Goes to the start of the next line, if wrapping is on. -/
def wrapLine (s : Screen) : Screen :=
  let s := s.cancelWrap
  if s.modes.autoWrap then { s with cursor.col := 0 }.lineFeed else s

/-- Joins a character that takes no column to the one before the cursor. -/
def attach (s : Screen) (c : Char) : Screen :=
  let stop := s.cursor.col + if s.cursor.wrapPending then 1 else 0
  s.updateRow fun row => row.attach c stop

/-- Would a character of this width stick out over the right margin, with wrapping on? -/
def overhangs (s : Screen) (width : Nat) : Bool :=
  width = 2 && 1 < s.size.cols && s.size.cols ≤ s.cursor.col + 1 && s.modes.autoWrap

/-- Writes a character at the cursor and moves on.  At the right margin the cursor stays in the
last column, with the wrap pending. -/
def place (s : Screen) (c : Char) (width : Nat) : Screen :=
  let col := s.cursor.col
  let s := s.updateRow fun row => row.write col c width
  if s.size.cols ≤ col + width then
    { s with cursor.col := s.size.cols - 1, cursor.wrapPending := s.modes.autoWrap }
  else { s with cursor.col := col + width }

/-- Writes one character. -/
def put (s : Screen) (c : Char) : Screen :=
  let width := charWidth c
  if width = 0 then s.attach c
  else
    let s := if s.cursor.wrapPending then s.wrapLine else s
    let s := if s.overhangs width then s.wrapLine else s
    s.place c width

/-- Writes characters in order. -/
def putAll (s : Screen) (t : Text) : Screen := t.foldl put s

/-! ### Erasing, inserting and deleting -/

/-- Inserts `n` blank cells at the cursor. -/
def insertChars (s : Screen) (n : Nat) : Screen :=
  let col := s.cursor.col
  s.updateRow fun row => row.insertBlanks col n

/-- Deletes `n` cells at the cursor. -/
def deleteChars (s : Screen) (n : Nat) : Screen :=
  let col := s.cursor.col
  s.updateRow fun row => row.deleteCells col n

/-- Blanks `n` cells from the cursor on. -/
def eraseChars (s : Screen) (n : Nat) : Screen :=
  let col := s.cursor.col
  s.updateRow fun row => row.erase col n

/-- Blanks a part of the cursor's row: 0 from the cursor on, 1 up to and with the cursor, 2 all;
any other part is no part. -/
def eraseLine (s : Screen) (part : Nat) : Screen :=
  let col := s.cursor.col
  match part with
  | 0 => s.updateRow fun row => row.erase col row.size
  | 1 => s.updateRow fun row => row.erase 0 (col + 1)
  | 2 => s.updateRow fun row => Row.blank row.size
  | _ => s

/-- Blanks the lines from `first` to before `last`. -/
def eraseRows (s : Screen) (first last : Nat) : Screen :=
  let row := s.blankRow
  { s with lines := Span.fill s.lines row first (last - first) }

/-- Blanks a part of the grid: 0 from the cursor on, 1 up to and with the cursor, 2 all.  Part 3 is
the scrollback, which is emptied. -/
def eraseDisplay (s : Screen) (part : Nat) : Screen :=
  let row := s.cursor.row
  let rows := s.lines.size
  match part with
  | 0 => (s.eraseLine 0).eraseRows (row + 1) rows
  | 1 => (s.eraseLine 1).eraseRows 0 row
  | 2 => s.eraseRows 0 rows
  | 3 => { s with scrollback := .empty }
  | _ => s

/-- Blanks grid and scrollback, with the cursor home and full margins.  Modes and title stay. -/
def clear (s : Screen) : Screen :=
  { s with
    lines := blankLines s.size
    scrollback := .empty
    cursor := {}
    savedCursor := none
    margins := fullMargins s.size }

end Screen

end TermSession
