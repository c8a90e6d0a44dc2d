import TermSession.Terminal.Span
import TermSession.Text.Width

/-!
# Cells and rows

A row of the grid is the array of its cells.  A wide character owns two cells: its own, of width
two, and a continuation of width zero to the right.  Overwriting one half of a pair blanks the
other, so that no half is left alone by a write.

* `Cell`, `Row`: the grid's contents;
* `Row.text`: what a row shows;
* `Row.write`, `Row.attach`: writing a character that takes columns, or one that joins the cell
  before it;
* `Row.erase`, `Row.insertBlanks`, `Row.deleteCells`, `Row.fit`: editing within a row.
-/

namespace TermSession

/-- One cell of the grid: the characters it shows, newest first, and the columns it takes. -/
structure Cell where
  newest : Text := [' ']
  width : Nat := 1
  deriving DecidableEq, Repr, Inhabited

namespace Cell

/-- What a cell shows. -/
def text (c : Cell) : Text := c.newest.reverse

/-- An empty cell shows a space. -/
def blank : Cell := {}

/-- Adds a character that takes no column of its own. -/
def join (cell : Cell) (c : Char) : Cell := { cell with newest := c :: cell.newest }

@[simp] theorem text_join (cell : Cell) (c : Char) : (cell.join c).text = cell.text ++ [c] := by
  simp [join, text]

/-- The right half of a wide character. -/
def continuation : Cell := ⟨[], 0⟩

/-- Is this the right half of a wide character? -/
def isContinuation (c : Cell) : Bool := c.width == 0

end Cell

/-- A row is the array of its cells. -/
abbrev Row := Array Cell

/-- Puts a character before a text; a space before nothing is left out. -/
def Text.consTrimmed (c : Char) (t : Text) : Text := if c = ' ' && t.isEmpty then [] else c :: t

/-- Removes the spaces at the end of a text. -/
def Text.trimEnd (t : Text) : Text := t.foldr Text.consTrimmed []

theorem Text.trimEnd_eq (t : Text) : t.trimEnd = (t.reverse.dropWhile (· = ' ')).reverse := by
  induction t with
  | nil => rfl
  | cons c t ih =>
    rw [trimEnd, List.foldr_cons, ← trimEnd, ih, List.reverse_cons, List.dropWhile_append]
    cases h : t.reverse.dropWhile (· = ' ') with
    | nil => by_cases hc : c = ' ' <;> simp [consTrimmed, hc]
    | cons d u => simp [consTrimmed]

namespace Cell

/-- Puts what a cell shows before a text; the right half of a wide character shows nothing. -/
def showBefore (cell : Cell) (t : Text) : Text :=
  if cell.isContinuation then t else cell.newest.foldl (fun t c => Text.consTrimmed c t) t

end Cell

namespace Row

/-- A row of blank cells. -/
def blank (cols : Nat) : Row := Array.replicate cols Cell.blank

/-- What a row shows, without the blanks at its end. -/
def text (row : Row) : Text := row.foldr Cell.showBefore []

theorem text_eq (row : Row) :
    row.text = Text.trimEnd ((row.toList.filter fun c => !c.isContinuation).flatMap Cell.text) := by
  rw [text, ← Array.foldr_toList]
  induction row.toList with
  | nil => rfl
  | cons cell cells ih =>
    rw [List.foldr_cons, ih, Cell.showBefore]
    cases h : cell.isContinuation with
    | true => simp [h]
    | false => simp [h, Cell.text, Text.trimEnd]

/-- Blanks the other half of a wide character of which one half is at `col`. -/
def split (row : Row) (col : Nat) : Row :=
  let row :=
    if 0 < col && row[col]?.any Cell.isContinuation then row.setIfInBounds (col - 1) .blank
    else row
  if row[col]?.any (·.width == 2) then row.setIfInBounds (col + 1) .blank else row

/-- Writes a character that takes `width` columns at `col`. -/
def write (row : Row) (col : Nat) (c : Char) (width : Nat) : Row :=
  let row := (row.split col).setIfInBounds col ⟨[c], width⟩
  if width = 2 then row.setIfInBounds (col + 1) .continuation else row

/-- Adds a character that takes no column to the nearest cell left of `col` that is not the right
half of a wide character. -/
def attach (row : Row) (c : Char) : Nat → Row
  | 0 => row
  | col + 1 =>
    match row[col]? with
    | none => row.attach c col
    | some cell =>
      if cell.isContinuation then row.attach c col else row.setIfInBounds col (cell.join c)

/-- Blanks `n` cells from `col` on. -/
def erase (row : Row) (col n : Nat) : Row := Span.fill row .blank col (min n (row.size - col))

/-- Inserts `n` blanks at `col`; cells pushed over the end are lost. -/
def insertBlanks (row : Row) (col n : Nat) : Row := Span.insert row col row.size n .blank

/-- Deletes `n` cells at `col`; blanks come in at the end. -/
def deleteCells (row : Row) (col n : Nat) : Row := Span.delete row col row.size n .blank

/-- Blanks a last cell that is the left half of a wide character. -/
def mendEnd (row : Row) : Row :=
  if row.back?.any (·.width == 2) then row.setIfInBounds (row.size - 1) .blank else row

/-- Cuts or pads a row to `cols` cells. -/
def fit (row : Row) (cols : Nat) : Row := mendEnd (row.take cols ++ blank (cols - row.size))

end Row

end TermSession
