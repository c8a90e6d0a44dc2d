import TermSession.Terminal.Edit

/-!
# Resizing the grid

Rows are anchored at the cursor: a grid that loses rows pushes the lines above the cursor to the
scrollback, a grid that gains rows pulls them back.  Columns are cut or padded; nothing is wrapped
anew.
-/

namespace TermSession.Screen

/-- Drops to `rows` lines.  As many lines as the cursor needs leave at the top; the rest are cut
at the bottom. -/
def shrinkRows (s : Screen) (rows : Nat) : Screen :=
  let excess := s.cursor.row + 1 - rows
  { s with
    lines := s.lines.extract excess (excess + rows)
    scrollback := s.scrollback.pushAll (s.lines.take excess).toList
    cursor.row := s.cursor.row - excess }

/-- Grows to `rows` lines: first from the scrollback, then with blank lines at the bottom. -/
def growRows (s : Screen) (rows : Nat) : Screen :=
  let pulled := min (rows - s.size.rows) s.scrollback.size
  let (newest, scrollback) := s.scrollback.pull [] pulled
  let lines := newest.toArray ++ s.lines
  { s with
    lines := lines ++ Array.replicate (rows - lines.size) s.blankRow
    scrollback
    cursor.row := s.cursor.row + pulled }

/-- Gives the grid new dimensions, each at least one.  Every row takes the new width, the margins
are full again, and no wrap is pending. -/
def resize (s : Screen) (size : Size) : Screen :=
  let size := size.atLeastOne
  let s' := if size.rows < s.size.rows then s.shrinkRows size.rows else s.growRows size.rows
  { s' with
    size
    lines := s'.lines.map fun row => row.fit size.cols
    margins := fullMargins size
    cursor := ⟨min s'.cursor.row (size.rows - 1), min s'.cursor.col (size.cols - 1), false⟩ }

end TermSession.Screen
