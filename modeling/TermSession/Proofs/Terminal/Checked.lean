import TermSession.Proofs.Terminal.Bounds

/-!
# Screens, with every bound checked

The operations of a screen done step by step: every index, every row that is taken out or put in,
and every sum and difference of sixteen bits is checked, and where a check fails there is no result.
Sums that are cut off at sixteen bits, and differences cut off at zero, need no check.

* `Screen.lineFeed?`, `Screen.put?`, `Screen.resize?`, …: the operations;
* `Screen.act?`, `Screen.actAll?`: the actions of bytes.
-/

namespace TermSession

namespace Screen

/-! ### Cursor motion, checked -/

/-- The index of the last row. -/
def lastRow? (s : Screen) : Option Nat := Short.sub? s.size.rows 1

/-- The index of the last column. -/
def lastCol? (s : Screen) : Option Nat := Short.sub? s.size.cols 1

/-- To the next multiple of eight, or the last column. -/
def tab? (s : Screen) : Option Screen := do
  let stop ← Short.add? (s.cursor.col / 8) 1
  let last ← s.lastCol?
  some { s.cancelWrap with cursor.col := min (min (stop * 8) Decimal.maxU16) last }

/-- Down by `n` rows. -/
def cursorDown? (s : Screen) (n : Nat) : Option Screen := do
  let last ← s.lastRow?
  some { s.cancelWrap with cursor.row := min (Short.addUpTo s.cursor.row n) last }

/-- Right by `n` columns. -/
def cursorForward? (s : Screen) (n : Nat) : Option Screen := do
  let last ← s.lastCol?
  some { s.cancelWrap with cursor.col := min (Short.addUpTo s.cursor.col n) last }

/-- To a column, counted from one. -/
def cursorColumn? (s : Screen) (col : Nat) : Option Screen := do
  let last ← s.lastCol?
  some { s.cancelWrap with cursor.col := min (col - 1) last }

/-- To a row, counted from one. -/
def cursorRow? (s : Screen) (row : Nat) : Option Screen := do
  let last ← s.lastRow?
  some { s.cancelWrap with cursor.row := min (row - 1) last }

/-- To a row and a column, counted from one. -/
def cursorPosition? (s : Screen) (row col : Nat) : Option Screen := do
  let s ← s.cursorRow? row
  s.cursorColumn? col

/-- Back to the remembered cursor, brought onto the grid. -/
def restoreCursor? (s : Screen) : Option Screen :=
  match s.savedCursor with
  | none => some s
  | some c => do
    let lastRow ← s.lastRow?
    let lastCol ← s.lastCol?
    some { s with cursor := { c with row := min c.row lastRow, col := min c.col lastCol } }

/-- Margins around the whole grid. -/
def fullMargins? (size : Size) : Option Margins := (Short.sub? size.rows 1).map (⟨0, ·⟩)

/-- Sets the scroll region. -/
def setMargins? (s : Screen) (top bottom : Nat) : Option Screen := do
  let last := (if bottom = 0 then s.size.rows else min bottom s.size.rows) - 1
  let margins ← if top - 1 < last then some ⟨top - 1, last⟩ else fullMargins? s.size
  { s with margins }.cursorPosition? 1 1

/-! ### Lines, checked -/

/-- Takes the line `i` out and puts a blank one in at `j`. -/
def rotate? (s : Screen) (i j : Nat) : Option (Row × Screen) := do
  let (row, lines) ← Span.removeAt? s.lines i
  let lines ← Span.insertAt? lines j s.blankRow
  some (row, { s with lines })

/-- Scrolls the region up by one. -/
def scrollUpOnce? (s : Screen) : Option Screen := do
  let (row, s) ← s.rotate? s.margins.top s.margins.bottom
  some (if s.margins.top = 0 then { s with scrollback := s.scrollback.push row } else s)

/-- Scrolls the region up by `n`, line by line. -/
def scrollUp? (s : Screen) (n : Nat) : Option Screen := repeat? scrollUpOnce? n s

/-- Deletes `n` lines of the scroll region at the line `top`, one by one. -/
def deleteAt? (s : Screen) (top n : Nat) : Option Screen :=
  repeat? (fun s => (s.rotate? top s.margins.bottom).map Prod.snd) n s

/-- Inserts `n` blank lines into the scroll region at the line `top`, one by one. -/
def insertAt? (s : Screen) (top n : Nat) : Option Screen :=
  repeat? (fun s => (s.rotate? s.margins.bottom top).map Prod.snd) n s

/-- Scrolls the region down by `n`. -/
def scrollDown? (s : Screen) (n : Nat) : Option Screen := s.insertAt? s.margins.top n

/-- How many lines there are from the cursor to the bottom margin. -/
def linesBelow? (s : Screen) : Option Nat := do
  let below ← Short.sub? s.margins.bottom s.cursor.row
  Short.add? below 1

/-- Inserts `n` blank lines at the cursor, but not more than there is room for. -/
def insertLines? (s : Screen) (n : Nat) : Option Screen :=
  if s.inMargins then do
    let below ← s.linesBelow?
    s.insertAt? s.cursor.row (min n below)
  else some s

/-- Deletes `n` lines at the cursor, but not more than there are. -/
def deleteLines? (s : Screen) (n : Nat) : Option Screen :=
  if s.inMargins then do
    let below ← s.linesBelow?
    s.deleteAt? s.cursor.row (min n below)
  else some s

/-- One row down, scrolling at the bottom margin. -/
def lineFeed? (s : Screen) : Option Screen := do
  let s := s.cancelWrap
  if s.cursor.row = s.margins.bottom then s.scrollUp? 1
  else
    let last ← s.lastRow?
    if s.cursor.row < last then
      let row ← Short.add? s.cursor.row 1
      some { s with cursor.row := row }
    else some s

/-- One row up, scrolling at the top margin. -/
def reverseIndex? (s : Screen) : Option Screen :=
  let s := s.cancelWrap
  if s.cursor.row = s.margins.top then s.scrollDown? 1
  else some { s with cursor.row := s.cursor.row - 1 }

/-! ### Writing and erasing, checked -/

/-- Applies `f` to the row of the cursor. -/
def updateRow? (s : Screen) (f : Row → Option Row) : Option Screen := do
  let row ← s.lines[s.cursor.row]?
  let row ← f row
  let lines ← Span.set? s.lines s.cursor.row row
  some { s with lines }

/-- Goes to the start of the next line, if wrapping is on. -/
def wrapLine? (s : Screen) : Option Screen :=
  let s := s.cancelWrap
  if s.modes.autoWrap then do
    let _ ← s.lines[s.cursor.row]?
    { s with cursor.col := 0 }.lineFeed?
  else some s

/-- Goes to the start of the next line if it is to. -/
def wrapIf? (s : Screen) (wraps : Bool) : Option Screen := if wraps then s.wrapLine? else some s

/-- Joins a character that takes no column to the one before the cursor. -/
def attach? (s : Screen) (c : Char) : Option Screen :=
  let stop := s.cursor.col + if s.cursor.wrapPending then 1 else 0
  s.updateRow? fun row => row.attach? c stop

/-- Would a character of this width stick out over the right margin, with wrapping on? -/
def overhangs? (s : Screen) (width : Nat) : Option Bool :=
  if width = 2 ∧ 1 < s.size.cols then do
    let next ← Short.add? s.cursor.col 1
    some (s.size.cols ≤ next && s.modes.autoWrap)
  else some false

/-- Moves on after a character that takes `width` columns. -/
def advance? (s : Screen) (width : Nat) : Option Screen :=
  let next := Short.addUpTo s.cursor.col width
  if s.size.cols ≤ next then do
    let last ← s.lastCol?
    some { s with cursor.col := last, cursor.wrapPending := s.modes.autoWrap }
  else some { s with cursor.col := next }

/-- Writes a character at the cursor and moves on. -/
def place? (s : Screen) (c : Char) (width : Nat) : Option Screen := do
  let s ← s.updateRow? fun row => row.write? s.size.cols s.cursor.col c width
  s.advance? width

/-- Writes one character. -/
def put? (s : Screen) (c : Char) : Option Screen :=
  let width := charWidth c
  if width = 0 then s.attach? c
  else do
    let s ← s.wrapIf? s.cursor.wrapPending
    let overhangs ← s.overhangs? width
    let s ← s.wrapIf? overhangs
    s.place? c width

/-- Inserts `n` blank cells at the cursor. -/
def insertChars? (s : Screen) (n : Nat) : Option Screen :=
  s.updateRow? fun row => row.insertBlanks? s.size.cols s.cursor.col n

/-- Deletes `n` cells at the cursor. -/
def deleteChars? (s : Screen) (n : Nat) : Option Screen :=
  s.updateRow? fun row => row.deleteCells? s.size.cols s.cursor.col n

/-- Blanks `n` cells from the cursor on. -/
def eraseChars? (s : Screen) (n : Nat) : Option Screen :=
  s.updateRow? fun row => row.erase? s.cursor.col n

/-- Blanks a part of the cursor's row. -/
def eraseLine? (s : Screen) (part : Nat) : Option Screen :=
  let col := s.cursor.col
  s.updateRow? fun row =>
    match part with
    | 0 => Span.fill? row .blank col row.size
    | 1 => Span.fill? row .blank 0 (col + 1)
    | 2 => some (Row.blank row.size)
    | _ => some row

/-- Blanks a part of the grid, or empties the scrollback. -/
def eraseDisplay? (s : Screen) (part : Nat) : Option Screen :=
  let row := s.cursor.row
  let rows := s.lines.size
  match part with
  | 0 => (s.eraseLine? 0).map (·.eraseRows (row + 1) rows)
  | 1 => (s.eraseLine? 1).map (·.eraseRows 0 row)
  | 2 => some (s.eraseRows 0 rows)
  | 3 => some { s with scrollback := .empty }
  | _ => some s

/-- Blanks grid and scrollback. -/
def clear? (s : Screen) : Option Screen := do
  let margins ← fullMargins? s.size
  some { s.clear with margins }

/-- A fresh screen. -/
def blank? (size : Size) : Option Screen := do
  let margins ← fullMargins? size.atLeastOne
  some { blank size with margins }

/-! ### Resizing, checked -/

/-- The topmost line goes to the scrollback. -/
def dropTop? (s : Screen) : Option Screen := do
  let (row, lines) ← Span.removeAt? s.lines 0
  some { s with lines, scrollback := s.scrollback.push row }

/-- The newest row of the scrollback comes back as the topmost line. -/
def pullTop? (s : Screen) : Option Screen :=
  match s.scrollback.pop? with
  | some (row, scrollback) =>
    (Span.insertAt? s.lines 0 row).map fun lines => { s with lines, scrollback }
  | none => some s

/-- Drops to `rows` lines. -/
def shrinkRows? (s : Screen) (rows : Nat) : Option Screen := do
  let below ← Short.add? s.cursor.row 1
  let excess := below - rows
  let s ← repeat? dropTop? excess s
  let row ← Short.sub? s.cursor.row excess
  some { s with lines := s.lines.take rows, cursor.row := row }

/-- Grows to `rows` lines. -/
def growRows? (s : Screen) (rows : Nat) : Option Screen := do
  let missing ← Short.sub? rows s.size.rows
  let pulled := min missing s.scrollback.size
  let s ← repeat? pullTop? pulled s
  let row ← Short.add? s.cursor.row pulled
  some { s with
    lines := s.lines ++ Array.replicate (rows - s.lines.size) s.blankRow
    cursor.row := row }

/-- Drops or grows to `rows` lines. -/
def refitRows? (s : Screen) (rows : Nat) : Option Screen :=
  if rows < s.size.rows then s.shrinkRows? rows
  else if s.size.rows < rows then s.growRows? rows
  else some s

/-- Gives the grid new dimensions. -/
def resize? (s : Screen) (size : Size) : Option Screen := do
  let size := size.atLeastOne
  let s ← s.refitRows? size.rows
  let lastRow ← Short.sub? size.rows 1
  let lastCol ← Short.sub? size.cols 1
  some { s with
    size
    lines := s.lines.map fun row => row.fit size.cols
    margins := ⟨0, lastRow⟩
    cursor := ⟨min s.cursor.row lastRow, min s.cursor.col lastCol, false⟩ }

/-! ### Actions, checked -/

/-- What a control sequence does. -/
def execute? (s : Screen) (isPrivate : Bool) (final : Char) (params : List Nat) : Option Screen :=
  let first := params.head?
  let second := params[1]?
  let count := max (first.getD 1) 1
  if isPrivate then some (s.execute true final params)
  else
    match final with
    | 'B' | 'e' => s.cursorDown? count
    | 'C' | 'a' => s.cursorForward? count
    | 'E' => (s.cursorDown? count).map carriageReturn
    | 'G' | '\x60' => s.cursorColumn? (first.getD 1)
    | 'H' | 'f' => s.cursorPosition? (first.getD 1) (second.getD 1)
    | 'd' => s.cursorRow? (first.getD 1)
    | 'J' => s.eraseDisplay? (first.getD 0)
    | 'K' => s.eraseLine? (first.getD 0)
    | 'L' => s.insertLines? count
    | 'M' => s.deleteLines? count
    | '@' => s.insertChars? count
    | 'P' => s.deleteChars? count
    | 'X' => s.eraseChars? count
    | 'S' => s.scrollUp? count
    | 'T' => s.scrollDown? count
    | 'r' => s.setMargins? (first.getD 1) (second.getD 0)
    | 'u' => s.restoreCursor?
    -- The other sequences index nothing and only subtract down to zero.
    | final => some (s.execute false final params)

/-- What a control character does. -/
def control? (s : Screen) (byte : UInt8) : Option Screen :=
  if byte = 0x09 then s.tab?
  else if 0x0A ≤ byte && byte ≤ 0x0C then
    s.lineFeed?.map fun s => if s.modes.lineFeedNewLine then s.carriageReturn else s
  else some (s.control byte)

/-- What the sequence of ESC and one more byte does. -/
def escaped? (s : Screen) (byte : UInt8) : Option Screen :=
  match Char.ofNat byte.toNat with
  | '8' => s.restoreCursor?
  | 'D' => s.lineFeed?
  | 'E' => s.carriageReturn.lineFeed?
  | 'M' => s.reverseIndex?
  | 'c' => blank? s.size
  | _ => some (s.escaped byte)

/-- Carries an action out. -/
def act? (s : Screen) : ScreenAction → Option Screen
  | .put c => s.put? c
  | .control byte => s.control? byte
  | .escaped byte => s.escaped? byte
  | .execute isPrivate final params => s.execute? isPrivate final params
  | .retitle t => some { s with title := t }

/-- Carries actions out in order. -/
def actAll? (s : Screen) (actions : List ScreenAction) : Option Screen := actions.foldlM act? s

end Screen

end TermSession
