import TermSession.Proofs.Terminal.Calls
import TermSession.Proofs.Terminal.Refit

/-!
# Screens that can be reached

All that can be done to a screen, with any counts, positions and characters, and what is true of it
afterwards.  Cells may show anything here, also control characters; `Screen.Sound` says more of the
screens of surfaces.

* `ScreenCall`, `Screen.perform`, `Screen.Reachable`: the operations, and the screens they lead to;
* `Screen.Framed`: grid, cursor, margins and scrollback are as large as they have to be;
* `Screen.Reachable.framed`: so it is of every screen that can be reached;
* `Surface.reachable_performAll`: the screens of surfaces can be reached.
-/

namespace TermSession

/-- An operation on a screen. -/
inductive ScreenCall where
  | put (c : Char)
  | carriageReturn
  | lineFeed
  | reverseIndex
  | backspace
  | tab
  | scrollUp (n : Nat)
  | scrollDown (n : Nat)
  | cursorUp (n : Nat)
  | cursorDown (n : Nat)
  | cursorForward (n : Nat)
  | cursorBackward (n : Nat)
  | cursorPosition (row col : Nat)
  | cursorColumn (col : Nat)
  | cursorRow (row : Nat)
  | insertChars (n : Nat)
  | deleteChars (n : Nat)
  | eraseChars (n : Nat)
  | eraseDisplay (part : Nat)
  | eraseLine (part : Nat)
  | insertLines (n : Nat)
  | deleteLines (n : Nat)
  | setMargins (top bottom : Nat)
  | saveCursor
  | restoreCursor
  | setPrivateMode (mode : Nat) (on : Bool)
  | setLineFeedNewLine (on : Bool)
  | retitle (t : Text)
  | clear
  | resize (z : Size)
  deriving Repr, Inhabited

/-- A scrollback that rows are added to stays within its limit. -/
theorem Scrollback.size_pushAll_le {sb : Scrollback} (h : sb.size ≤ limit) (rows : List Row) :
    (sb.pushAll rows).size ≤ limit :=
  (pushAll_le_and_forall (P := fun _ => True) h (fun _ _ => trivial) fun _ _ => trivial).1

namespace Screen

/-- Carries an operation out. -/
def perform (s : Screen) : ScreenCall → Screen
  | .put c => s.put c
  | .carriageReturn => s.carriageReturn
  | .lineFeed => s.lineFeed
  | .reverseIndex => s.reverseIndex
  | .backspace => s.backspace
  | .tab => s.tab
  | .scrollUp n => s.scrollUp n
  | .scrollDown n => s.scrollDown n
  | .cursorUp n => s.cursorUp n
  | .cursorDown n => s.cursorDown n
  | .cursorForward n => s.cursorForward n
  | .cursorBackward n => s.cursorBackward n
  | .cursorPosition row col => s.cursorPosition row col
  | .cursorColumn col => s.cursorColumn col
  | .cursorRow row => s.cursorRow row
  | .insertChars n => s.insertChars n
  | .deleteChars n => s.deleteChars n
  | .eraseChars n => s.eraseChars n
  | .eraseDisplay part => s.eraseDisplay part
  | .eraseLine part => s.eraseLine part
  | .insertLines n => s.insertLines n
  | .deleteLines n => s.deleteLines n
  | .setMargins top bottom => s.setMargins top bottom
  | .saveCursor => s.saveCursor
  | .restoreCursor => s.restoreCursor
  | .setPrivateMode mode on => s.setPrivateMode mode on
  | .setLineFeedNewLine on => s.setLineFeedNewLine on
  | .retitle t => { s with title := t }
  | .clear => s.clear
  | .resize z => s.resize z

/-- A fresh screen of any size, after any operations. -/
inductive Reachable : Screen → Prop where
  | blank (z : Size) : Reachable (blank z)
  | perform {s : Screen} (h : Reachable s) (call : ScreenCall) : Reachable (s.perform call)

/-! ### Frames -/

/-- The grid has as many rows and columns as its size says, the cursor and the margins are on it,
and the scrollback is within its limit. -/
structure Framed (s : Screen) : Prop where
  size_lines : s.lines.size = s.size.rows
  size_line : ∀ row ∈ s.lines, row.size = s.size.cols
  row_lt : s.cursor.row < s.size.rows
  col_lt : s.cursor.col < s.size.cols
  top_le : s.margins.top ≤ s.margins.bottom
  bottom_lt : s.margins.bottom < s.size.rows
  size_scrollback : s.scrollback.size ≤ Scrollback.limit

theorem framed_blank (z : Size) : (blank z).Framed where
  size_lines := Array.size_replicate
  size_line := size_of_mem_blankLines _
  row_lt := z.atLeastOne_pos.1
  col_lt := z.atLeastOne_pos.2
  top_le := Nat.zero_le _
  bottom_lt := Nat.sub_lt z.atLeastOne_pos.1 Nat.one_pos
  size_scrollback := Nat.zero_le _

namespace Framed

variable {s : Screen}

theorem rows_pos (h : s.Framed) : 0 < s.size.rows := Nat.zero_lt_of_lt h.row_lt

theorem cols_pos (h : s.Framed) : 0 < s.size.cols := Nat.zero_lt_of_lt h.col_lt

theorem min_row_lt (h : s.Framed) (row : Nat) : min row (s.size.rows - 1) < s.size.rows := by
  have := h.rows_pos
  omega

theorem min_col_lt (h : s.Framed) (col : Nat) : min col (s.size.cols - 1) < s.size.cols := by
  have := h.cols_pos
  omega

/-- Moving the cursor on the grid. -/
theorem moveTo (h : s.Framed) {cursor : Cursor} (hrow : cursor.row < s.size.rows)
    (hcol : cursor.col < s.size.cols) : ({ s with cursor } : Screen).Framed :=
  { h with row_lt := hrow, col_lt := hcol }

/-- Other rows on the grid. -/
theorem redraw (h : s.Framed) {lines : Array Row} (hsize : lines.size = s.lines.size)
    (hline : ∀ row ∈ lines, row.size = s.size.cols) : ({ s with lines } : Screen).Framed :=
  { h with size_lines := hsize.trans h.size_lines, size_line := hline }

theorem updateRow (h : s.Framed) {f : Row → Row} (hf : ∀ row, (f row).size = row.size) :
    (s.updateRow f).Framed :=
  h.redraw Array.size_modify
    (Span.forall_modify h.size_line (fun row hrow => (hf row).trans hrow) _)

theorem deleteAt (h : s.Framed) (top n : Nat) : (s.deleteAt top n).Framed :=
  h.redraw (Span.size_delete ..) (Span.forall_delete h.size_line (Row.size_blank _) _ _ _)

theorem insertAt (h : s.Framed) (top n : Nat) : (s.insertAt top n).Framed :=
  h.redraw (Span.size_insert ..) (Span.forall_insert h.size_line (Row.size_blank _) _ _ _)

theorem eraseRows (h : s.Framed) (first last : Nat) : (s.eraseRows first last).Framed :=
  h.redraw (Span.size_fill ..) (Span.forall_fill h.size_line (Row.size_blank _) _ _)

theorem eraseLine (h : s.Framed) (part : Nat) : (s.eraseLine part).Framed := by
  unfold Screen.eraseLine
  split
  · exact h.updateRow fun _ => Row.size_erase ..
  · exact h.updateRow fun _ => Row.size_erase ..
  · exact h.updateRow fun _ => Row.size_blank _
  · exact h

theorem eraseDisplay (h : s.Framed) (part : Nat) : (s.eraseDisplay part).Framed := by
  unfold Screen.eraseDisplay
  dsimp only
  split
  · exact (h.eraseLine 0).eraseRows _ _
  · exact (h.eraseLine 1).eraseRows _ _
  · exact h.eraseRows _ _
  · exact { h with size_scrollback := Nat.zero_le _ }
  · exact h

theorem insertLines (h : s.Framed) (n : Nat) : (s.insertLines n).Framed := by
  unfold Screen.insertLines
  split
  · exact h.insertAt _ _
  · exact h

theorem deleteLines (h : s.Framed) (n : Nat) : (s.deleteLines n).Framed := by
  unfold Screen.deleteLines
  split
  · exact h.deleteAt _ _
  · exact h

/-- Rows that leave the grid make the scrollback no larger than it may be. -/
theorem scrollUp (h : s.Framed) (n : Nat) : (s.scrollUp n).Framed := by
  unfold Screen.scrollUp
  dsimp only
  split
  · refine deleteAt (s := { s with scrollback := s.scrollback.pushAll (s.leaving n).toList }) ?_ _ _
    exact { h with size_scrollback := Scrollback.size_pushAll_le h.size_scrollback _ }
  · exact h.deleteAt _ _

theorem cancelWrap (h : s.Framed) : s.cancelWrap.Framed := h.moveTo h.row_lt h.col_lt

theorem carriageReturn (h : s.Framed) : s.carriageReturn.Framed := h.moveTo h.row_lt h.cols_pos

theorem lineFeed (h : s.Framed) : s.lineFeed.Framed := by
  unfold Screen.lineFeed
  dsimp only
  split
  · exact h.cancelWrap.scrollUp 1
  · split
    · exact h.moveTo ‹_› h.col_lt
    · exact h.cancelWrap

theorem reverseIndex (h : s.Framed) : s.reverseIndex.Framed := by
  unfold Screen.reverseIndex
  dsimp only
  split
  · exact h.cancelWrap.insertAt _ 1
  · exact h.moveTo (Nat.lt_of_le_of_lt (Nat.sub_le _ _) h.row_lt) h.col_lt

theorem wrapLine (h : s.Framed) : s.wrapLine.Framed := by
  unfold Screen.wrapLine
  dsimp only
  split
  · exact h.carriageReturn.lineFeed
  · exact h.cancelWrap

theorem place (h : s.Framed) (c : Char) (width : Nat) : (s.place c width).Framed := by
  have hrow := h.updateRow (f := (·.write s.cursor.col c width)) fun _ => Row.size_write ..
  unfold Screen.place
  dsimp only
  split
  · exact hrow.moveTo h.row_lt (Nat.sub_lt h.cols_pos Nat.one_pos)
  · exact hrow.moveTo h.row_lt (Nat.not_le.1 ‹_›)

theorem put (h : s.Framed) (c : Char) : (s.put c).Framed := by
  unfold Screen.put
  dsimp only
  split
  · exact h.updateRow fun _ => Row.size_attach ..
  · have hpending : (if s.cursor.wrapPending then s.wrapLine else s).Framed := by
      split
      · exact h.wrapLine
      · exact h
    generalize (if s.cursor.wrapPending then s.wrapLine else s) = s' at hpending ⊢
    split
    · exact hpending.wrapLine.place c _
    · exact hpending.place c _

theorem cursorPosition (h : s.Framed) (row col : Nat) : (s.cursorPosition row col).Framed :=
  h.moveTo (h.min_row_lt _) (h.min_col_lt _)

theorem setMargins (h : s.Framed) (top bottom : Nat) : (s.setMargins top bottom).Framed := by
  have hpos := h.rows_pos
  have hlast : (if bottom = 0 then s.size.rows else min bottom s.size.rows) - 1 < s.size.rows := by
    split <;> omega
  unfold Screen.setMargins
  dsimp only
  generalize (if bottom = 0 then s.size.rows else min bottom s.size.rows) - 1 = last at hlast ⊢
  refine cursorPosition ?_ 1 1
  split
  · exact { h with top_le := Nat.le_of_lt ‹_›, bottom_lt := hlast }
  · exact { h with top_le := Nat.zero_le _, bottom_lt := Nat.sub_lt hpos Nat.one_pos }

theorem restoreCursor (h : s.Framed) : s.restoreCursor.Framed := by
  unfold Screen.restoreCursor
  split
  · exact h
  · exact h.moveTo (h.min_row_lt _) (h.min_col_lt _)

theorem setPrivateMode (h : s.Framed) (mode : Nat) (on : Bool) :
    (s.setPrivateMode mode on).Framed := by
  unfold Screen.setPrivateMode
  split
  · exact { h with }
  · split
    · exact { h with }
    · exact h

theorem clear (h : s.Framed) : s.clear.Framed where
  size_lines := Array.size_replicate
  size_line := size_of_mem_blankLines _
  row_lt := h.rows_pos
  col_lt := h.cols_pos
  top_le := Nat.zero_le _
  bottom_lt := Nat.sub_lt h.rows_pos Nat.one_pos
  size_scrollback := Nat.zero_le _

/-! ### Resizing -/

theorem size_lines_shrinkRows (h : s.Framed) {rows : Nat} (hlt : rows < s.size.rows) :
    (s.shrinkRows rows).lines.size = rows := by
  have := h.size_lines
  have := h.row_lt
  simp only [Screen.shrinkRows, Array.size_extract]
  omega

theorem size_lines_growRows (h : s.Framed) {rows : Nat} (hle : s.size.rows ≤ rows) :
    (s.growRows rows).lines.size = rows := by
  obtain ⟨habove, hall⟩ := s.allRows_growRows rows
  have hlength := congrArg List.length hall
  have := h.size_lines
  simp only [List.length_append, length_allRows, List.length_replicate, habove] at hlength
  omega

/-- Moving the border of the grid gives it its rows, and the scrollback no more than it may have. -/
theorem moved (h : s.Framed) (rows : Nat) :
    let s' := if rows < s.size.rows then s.shrinkRows rows else s.growRows rows
    s'.lines.size = rows ∧ s'.scrollback.size ≤ Scrollback.limit := by
  by_cases hlt : rows < s.size.rows
  · rw [if_pos hlt]
    exact ⟨h.size_lines_shrinkRows hlt, Scrollback.size_pushAll_le h.size_scrollback _⟩
  · rw [if_neg hlt]
    refine ⟨h.size_lines_growRows (Nat.not_lt.1 hlt), ?_⟩
    rw [(s.allRows_growRows rows).1]
    exact Nat.le_trans (Nat.sub_le _ _) h.size_scrollback

theorem resize (h : s.Framed) (z : Size) : (s.resize z).Framed := by
  have hpos := z.atLeastOne_pos
  obtain ⟨hlines, hscrollback⟩ := h.moved z.atLeastOne.rows
  exact {
    size_lines := Array.size_map.trans hlines
    size_line := fun row hrow => by
      obtain ⟨row, -, rfl⟩ := Array.mem_map.1 hrow
      exact Row.size_fit row _
    row_lt := by
      show min _ (z.atLeastOne.rows - 1) < z.atLeastOne.rows
      omega
    col_lt := by
      show min _ (z.atLeastOne.cols - 1) < z.atLeastOne.cols
      omega
    top_le := Nat.zero_le _
    bottom_lt := Nat.sub_lt hpos.1 Nat.one_pos
    size_scrollback := hscrollback }

/-- Every operation keeps the frame. -/
theorem perform (h : s.Framed) (call : ScreenCall) : (s.perform call).Framed := by
  cases call with
  | put c => exact h.put c
  | carriageReturn => exact h.carriageReturn
  | lineFeed => exact h.lineFeed
  | reverseIndex => exact h.reverseIndex
  | backspace => exact h.moveTo h.row_lt (Nat.lt_of_le_of_lt (Nat.sub_le _ _) h.col_lt)
  | tab => exact h.moveTo h.row_lt (h.min_col_lt _)
  | scrollUp n => exact h.scrollUp n
  | scrollDown n => exact h.insertAt _ n
  | cursorUp n => exact h.moveTo (Nat.lt_of_le_of_lt (Nat.sub_le _ _) h.row_lt) h.col_lt
  | cursorDown n => exact h.moveTo (h.min_row_lt _) h.col_lt
  | cursorForward n => exact h.moveTo h.row_lt (h.min_col_lt _)
  | cursorBackward n => exact h.moveTo h.row_lt (Nat.lt_of_le_of_lt (Nat.sub_le _ _) h.col_lt)
  | cursorPosition row col => exact h.cursorPosition row col
  | cursorColumn col => exact h.moveTo h.row_lt (h.min_col_lt _)
  | cursorRow row => exact h.moveTo (h.min_row_lt _) h.col_lt
  | insertChars n => exact h.updateRow fun _ => Span.size_insert ..
  | deleteChars n => exact h.updateRow fun _ => Span.size_delete ..
  | eraseChars n => exact h.updateRow fun _ => Row.size_erase ..
  | eraseDisplay part => exact h.eraseDisplay part
  | eraseLine part => exact h.eraseLine part
  | insertLines n => exact h.insertLines n
  | deleteLines n => exact h.deleteLines n
  | setMargins top bottom => exact h.setMargins top bottom
  | saveCursor => exact { h with }
  | restoreCursor => exact h.restoreCursor
  | setPrivateMode mode on => exact h.setPrivateMode mode on
  | setLineFeedNewLine on => exact { h with }
  | retitle t => exact { h with }
  | clear => exact h.clear
  | resize z => exact h.resize z

end Framed

/-- Every screen that can be reached is framed. -/
theorem Reachable.framed {s : Screen} (h : s.Reachable) : s.Framed := by
  induction h with
  | blank z => exact framed_blank z
  | perform _ call ih => exact ih.perform call

/-! ### What bytes do -/

namespace Reachable

variable {s : Screen}

theorem setPrivateModes (h : s.Reachable) (params : List Nat) (on : Bool) :
    (params.foldl (fun s p => s.setPrivateMode p on) s).Reachable := by
  induction params generalizing s with
  | nil => exact h
  | cons p params ih => exact ih (h.perform (.setPrivateMode p on))

/-- A control sequence does what some operations do. -/
theorem execute (h : s.Reachable) (isPrivate : Bool) (final : Char) (params : List Nat) :
    (s.execute isPrivate final params).Reachable := by
  unfold Screen.execute
  dsimp only
  split
  · split
    · exact h.setPrivateModes params true
    · exact h.setPrivateModes params false
    · exact h
  · split
    · exact h.perform (.cursorUp _)
    · exact h.perform (.cursorDown _)
    · exact h.perform (.cursorDown _)
    · exact h.perform (.cursorForward _)
    · exact h.perform (.cursorForward _)
    · exact h.perform (.cursorBackward _)
    · exact (h.perform (.cursorDown _)).perform .carriageReturn
    · exact (h.perform (.cursorUp _)).perform .carriageReturn
    · exact h.perform (.cursorColumn _)
    · exact h.perform (.cursorColumn _)
    · exact h.perform (.cursorPosition _ _)
    · exact h.perform (.cursorPosition _ _)
    · exact h.perform (.cursorRow _)
    · exact h.perform (.eraseDisplay _)
    · exact h.perform (.eraseLine _)
    · exact h.perform (.insertLines _)
    · exact h.perform (.deleteLines _)
    · exact h.perform (.insertChars _)
    · exact h.perform (.deleteChars _)
    · exact h.perform (.eraseChars _)
    · exact h.perform (.scrollUp _)
    · exact h.perform (.scrollDown _)
    · exact h.perform (.setMargins _ _)
    · exact h.perform .saveCursor
    · exact h.perform .restoreCursor
    · split
      · exact h.perform (.setLineFeedNewLine true)
      · exact h
    · split
      · exact h.perform (.setLineFeedNewLine false)
      · exact h
    · exact h

theorem control (h : s.Reachable) (byte : UInt8) : (s.control byte).Reachable := by
  unfold Screen.control
  split
  · exact h.perform .backspace
  · split
    · exact h.perform .tab
    · split
      · split
        · exact (h.perform .lineFeed).perform .carriageReturn
        · exact h.perform .lineFeed
      · split
        · exact h.perform .carriageReturn
        · exact h

theorem escaped (h : s.Reachable) (byte : UInt8) : (s.escaped byte).Reachable := by
  unfold Screen.escaped
  split
  · exact h.perform .saveCursor
  · exact h.perform .restoreCursor
  · exact h.perform .lineFeed
  · exact (h.perform .carriageReturn).perform .lineFeed
  · exact h.perform .reverseIndex
  · exact .blank _
  · exact h

theorem act (h : s.Reachable) (a : ScreenAction) : (s.act a).Reachable := by
  cases a with
  | put c => exact h.perform (.put c)
  | control byte => exact h.control byte
  | escaped byte => exact h.escaped byte
  | execute isPrivate final params => exact h.execute isPrivate final params
  | retitle t => exact h.perform (.retitle t)

theorem actAll (h : s.Reachable) (actions : List ScreenAction) : (s.actAll actions).Reachable := by
  induction actions generalizing s with
  | nil => exact h
  | cons a actions ih => exact ih (h.act a)

end Reachable

end Screen

namespace Surface

theorem reachable_write {s : Surface} (h : s.screen.Reachable) (bytes : List UInt8) :
    (s.write bytes).1.screen.Reachable := by
  induction bytes generalizing s with
  | nil => exact h
  | cons byte bytes ih =>
    rw [write_cons]
    refine ih ?_
    rw [feed_eq]
    exact h.actAll _

/-- The screens of surfaces can be reached, whatever is written to them and however they are resized
and cleared. -/
theorem reachable_performAll (z : Size) (calls : List DisplayCall) :
    (Display.performAll (new z) calls).screen.Reachable := by
  induction calls using List.reverseRecOn with
  | nil => exact .blank z
  | append_singleton calls c ih =>
    rw [Display.performAll_snoc]
    cases c with
    | write data => exact reachable_write ih data
    | clear => exact ih.perform .clear
    | resize z => exact ih.perform (.resize z)

end Surface

end TermSession
