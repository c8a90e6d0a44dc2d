import TermSession.Proofs.Terminal.PendingWrap
import TermSession.Proofs.Terminal.Reachable
import TermSession.Proofs.Terminal.Unfailing
import TermSession.Proofs.Terminal.Wrapping

/-!
# Combining characters

A character that takes no column joins the cell before the cursor, or before the right half of a
wide character that stands there.  After a character that was just written this is its own cell,
unless the cursor has stayed on it: without automatic wrapping it does so in the last column.

* `Row.getElem?_write`, `Row.attach_write`: the cell that is written, and what joins it;
* `Screen.stop`, `Screen.stop_place`: where the search for the cell to join begins;
* `Screen.cell?`, `Screen.Joins`: the cells of a grid, and one of them that is joined;
* `Screen.Reachable.joins_iff`: when a character that takes no column joins the one just written.
-/

namespace TermSession

namespace Row

variable {row : Row}

/-- What is written stands in its cell. -/
theorem getElem?_write {col : Nat} (h : col < row.size) (c : Char) (width : Nat) :
    (row.write col c width)[col]? = some ⟨[c], width⟩ := by
  have hset : ((row.split col).setIfInBounds col ⟨[c], width⟩)[col]? = some ⟨[c], width⟩ := by
    rw [Array.getElem?_setIfInBounds_self_of_lt (by rwa [size_split])]
  unfold write
  dsimp only
  split
  · rw [Array.getElem?_setIfInBounds_ne (by omega), hset]
  · exact hset

/-- The right half of a wide character is a continuation. -/
theorem getElem?_write_succ {col : Nat} (h : col + 1 < row.size) (c : Char) :
    (row.write col c 2)[col + 1]? = some .continuation := by
  rw [write, if_pos rfl, Array.getElem?_setIfInBounds_self_of_lt]
  rwa [Array.size_setIfInBounds, size_split]

theorem attach_succ {col : Nat} {cell : Cell} (h : row[col]? = some cell)
    (hcell : cell.isContinuation = false) (c : Char) :
    row.attach c (col + 1) = row.setIfInBounds col (cell.join c) := by
  simp [attach, h, hcell]

theorem attach_succ_continuation {col : Nat} (h : row[col]? = some .continuation) (c : Char) :
    row.attach c (col + 1) = row.attach c col := by
  simp [attach, h, Cell.isContinuation, Cell.continuation]

/-- The search for a cell to join begins in front of `stop`. -/
theorem getElem?_attach_of_le (c : Char) {stop j : Nat} (h : stop ≤ j) :
    (row.attach c stop)[j]? = row[j]? := by
  induction stop with
  | zero => rfl
  | succ stop ih =>
    have hlater := ih (by omega)
    rw [attach]
    split
    · exact hlater
    · split
      · exact hlater
      · exact Array.getElem?_setIfInBounds_ne (by omega)

/-- A character joins the one just written if the search for it begins right behind a column that
this takes. -/
theorem attach_write {col stop width : Nat} (b z : Char) (hwidth : width = 1 ∨ width = 2)
    (hstop : col < stop ∧ stop ≤ col + width) (hsize : stop ≤ row.size) :
    (row.write col b width).attach z stop =
      (row.write col b width).setIfInBounds col ⟨[z, b], width⟩ := by
  have hcell := getElem?_write (by omega : col < row.size) b width
  have hsolid : (⟨[b], width⟩ : Cell).isContinuation = false := by
    rcases hwidth with rfl | rfl <;> rfl
  have hfirst : (row.write col b width).attach z (col + 1) =
      (row.write col b width).setIfInBounds col ⟨[z, b], width⟩ := attach_succ hcell hsolid z
  rcases (by omega : stop = col + 1 ∨ stop = col + 2) with rfl | rfl
  · exact hfirst
  · obtain rfl : width = 2 := by omega
    rw [attach_succ_continuation (getElem?_write_succ hsize b), hfirst]

end Row

namespace Screen

variable {s : Screen}

/-! ### Cells -/

/-- The cell in a row and a column of the grid. -/
def cell? (s : Screen) (row col : Nat) : Option Cell := s.lines[row]?.bind (·[col]?)

theorem cell?_updateRow (s : Screen) (f : Row → Row) (i j : Nat) :
    (s.updateRow f).cell? i j =
      if i = s.cursor.row then (s.lines[i]?.map f).bind (·[j]?) else s.cell? i j := by
  unfold cell? updateRow
  dsimp only
  rw [Array.getElem?_modify]
  by_cases hi : i = s.cursor.row
  · rw [if_pos hi, if_pos hi.symm]
  · rw [if_neg hi, if_neg (Ne.symm hi)]

/-! ### Where a character is placed -/

theorem col_lineFeed (s : Screen) : s.lineFeed.cursor.col = s.cursor.col := by
  unfold lineFeed
  dsimp only
  split
  · rw [cursor_scrollUp]
    rfl
  · split <;> rfl

theorem modes_wrapLine (s : Screen) : s.wrapLine.modes = s.modes := by
  unfold wrapLine
  dsimp only
  split
  · exact Sound.lineFeed_modes _
  · rfl

theorem modes_wrapFor (s : Screen) (width : Nat) : (s.wrapFor width).modes = s.modes := by
  unfold wrapFor
  dsimp only
  split <;> split <;> simp only [modes_wrapLine]

theorem Framed.wrapFor (h : s.Framed) (width : Nat) : (s.wrapFor width).Framed := by
  have hpending : Framed (if s.cursor.wrapPending then s.wrapLine else s) := by
    split
    · exact h.wrapLine
    · exact h
  unfold Screen.wrapFor
  dsimp only
  generalize (if s.cursor.wrapPending then s.wrapLine else s) = t at hpending ⊢
  split
  · exact hpending.wrapLine
  · exact hpending

/-- With automatic wrapping no character sticks out over the right margin of two columns or more. -/
theorem overhangs_wrapFor (hcols : 2 ≤ s.size.cols) (width : Nat) :
    (s.wrapFor width).overhangs width = false := by
  have hsize : (if s.cursor.wrapPending then s.wrapLine else s).size = s.size := by
    split <;> simp
  unfold wrapFor
  dsimp only
  generalize (if s.cursor.wrapPending then s.wrapLine else s) = t at hsize ⊢
  by_cases hover : t.overhangs width = true
  · have hwrap : t.modes.autoWrap = true := by
      unfold overhangs at hover
      simp_all
    have hcol : t.wrapLine.cursor.col = 0 := by
      rw [wrapLine_eq hwrap, col_lineFeed]
      rfl
    have hwide : ¬ t.wrapLine.size.cols ≤ 0 + 1 := by
      rw [size_wrapLine, hsize]
      omega
    rw [if_pos hover, overhangs, hcol, decide_eq_false hwide]
    simp
  · rw [if_neg hover]
    rwa [Bool.not_eq_true] at hover

/-! ### Where the search begins -/

/-- The column in front of which the cell is searched that a character joins. -/
def stop (s : Screen) : Nat := s.cursor.col + if s.cursor.wrapPending then 1 else 0

theorem attach_eq (s : Screen) (c : Char) : s.attach c = s.updateRow (·.attach c s.stop) := rfl

theorem place_lines (s : Screen) (c : Char) (width : Nat) :
    (s.place c width).lines = (s.updateRow (·.write s.cursor.col c width)).lines ∧
      (s.place c width).cursor.row = s.cursor.row := by
  unfold place
  dsimp only
  split <;> exact ⟨rfl, rfl⟩

/-- After a character is placed, the search begins right behind a column that it takes.  If it is in
the last column and there is no automatic wrapping, the search begins in front of it. -/
theorem stop_place (h : s.Framed) (hpending : s.cursor.wrapPending = false) {width : Nat}
    (hwidth : width = 1 ∨ width = 2) (hfits : s.overhangs width = false)
    (hcols : 2 ≤ s.size.cols) (c : Char) :
    (s.place c width).stop ≤ s.size.cols ∧
      if s.modes.autoWrap = true ∨ s.cursor.col + 1 < s.size.cols then
        s.cursor.col < (s.place c width).stop ∧ (s.place c width).stop ≤ s.cursor.col + width
      else (s.place c width).stop = s.cursor.col := by
  have hcol := h.col_lt
  have hfits' : width = 2 → s.modes.autoWrap = true → s.cursor.col + 1 < s.size.cols := by
    intro htwo hwrap
    by_contra hlast
    have hover : s.overhangs width = true := by
      simp only [overhangs, htwo, hwrap]
      simpa using ⟨hcols, Nat.not_lt.1 hlast⟩
    rw [hfits] at hover
    contradiction
  have hstop : (s.place c width).stop =
      if s.size.cols ≤ s.cursor.col + width then
        s.size.cols - 1 + if s.modes.autoWrap then 1 else 0
      else s.cursor.col + width := by
    unfold place stop
    dsimp only
    by_cases hmargin : s.size.cols ≤ s.cursor.col + width
    · rw [if_pos hmargin, if_pos (show (s.updateRow _).size.cols ≤ _ from hmargin)]
      rfl
    · rw [if_neg hmargin, if_neg (show ¬ (s.updateRow _).size.cols ≤ _ from hmargin)]
      show _ + (if s.cursor.wrapPending then 1 else 0) = _
      rw [hpending]
      rfl
  rw [hstop]
  cases hwrap : s.modes.autoWrap with
  | true =>
    have := fun htwo => hfits' htwo hwrap
    simp only [true_or, if_true]
    split <;> omega
  | false =>
    simp only [Bool.false_eq_true, false_or, if_false]
    split <;> split <;> omega

/-! ### Two characters -/

/-- A character that takes no column changes at most the row of the cursor. -/
theorem cell?_attach (s : Screen) (c : Char) (i j : Nat) :
    (s.attach c).cell? i j =
      if i = s.cursor.row then (s.lines[i]?.map (·.attach c s.stop)).bind (·[j]?)
      else s.cell? i j := by
  rw [attach_eq, cell?_updateRow]

/-- From `s` to `s'` the character `z` has joined `b` in a cell, and nothing else has changed. -/
structure Joins (s s' : Screen) (row col : Nat) (b z : Char) : Prop where
  joined : (s'.cell? row col).map Cell.text = some [b, z]
  other : ∀ i j, (i, j) ≠ (row, col) → s'.cell? i j = s.cell? i j
  rest : s' = { s with lines := s'.lines }

/-- After a character is placed, one that takes no column joins it exactly if there is automatic
wrapping or the first is not in the last column. -/
theorem Framed.joins_place_iff (h : s.Framed) (hpending : s.cursor.wrapPending = false)
    {width : Nat} (hwidth : width = 1 ∨ width = 2) (hfits : s.overhangs width = false)
    (hcols : 2 ≤ s.size.cols) (b z : Char) :
    (s.place b width).cell? s.cursor.row s.cursor.col = some ⟨[b], width⟩ ∧
      ((s.place b width).Joins ((s.place b width).attach z) s.cursor.row s.cursor.col b z ↔
        (s.modes.autoWrap = true ∨ s.cursor.col + 1 < s.size.cols)) := by
  obtain ⟨hlines, hrow⟩ := s.place_lines b width
  obtain ⟨hfit, hstop⟩ := stop_place h hpending hwidth hfits hcols b
  have hlt : s.cursor.row < s.lines.size := h.size_lines ▸ h.row_lt
  generalize hs₁ : s.place b width = s₁ at *
  have hline : s₁.lines[s.cursor.row]? =
      some (s.lines[s.cursor.row].write s.cursor.col b width) := by
    rw [hlines]
    show (s.lines.modify _ _)[s.cursor.row]? = _
    rw [Array.getElem?_modify, if_pos rfl, Array.getElem?_eq_getElem hlt]
    rfl
  have hsize : s.lines[s.cursor.row].size = s.size.cols := h.size_line _ (Array.getElem_mem hlt)
  generalize s.lines[s.cursor.row] = line at hline hsize
  have hinside : s.cursor.col < line.size := hsize ▸ h.col_lt
  have hwritten := Row.getElem?_write hinside b width
  have hcell : s₁.cell? s.cursor.row s.cursor.col = some ⟨[b], width⟩ := by
    rw [cell?, hline]
    exact hwritten
  refine ⟨hcell, ?_⟩
  by_cases hinner : s.modes.autoWrap = true ∨ s.cursor.col + 1 < s.size.cols
  · rw [if_pos hinner] at hstop
    have hattach := Row.attach_write b z hwidth hstop (show s₁.stop ≤ line.size from hsize ▸ hfit)
    have hcells (j : Nat) : (s₁.attach z).cell? s.cursor.row j =
        ((line.write s.cursor.col b width).setIfInBounds s.cursor.col ⟨[z, b], width⟩)[j]? := by
      rw [cell?_attach, if_pos hrow.symm, hline, ← hattach]
      rfl
    refine iff_of_true ⟨?_, ?_, rfl⟩ hinner
    · rw [hcells, Array.getElem?_setIfInBounds_self_of_lt]
      · rfl
      · rwa [Row.size_write]
    · rintro i j hij
      by_cases hi : i = s.cursor.row
      · subst hi
        have hj : s.cursor.col ≠ j := by
          rintro rfl
          exact hij rfl
        rw [hcells, Array.getElem?_setIfInBounds_ne hj, cell?, hline]
        rfl
      · rw [cell?_attach, if_neg (by rwa [hrow])]
  · rw [if_neg hinner] at hstop
    refine iff_of_false ?_ hinner
    rintro ⟨hjoined, -, -⟩
    have hkept : (s₁.attach z).cell? s.cursor.row s.cursor.col = some ⟨[b], width⟩ := by
      rw [cell?_attach, if_pos hrow.symm, hline, hstop]
      exact (Row.getElem?_attach_of_le z (Nat.le_refl _)).trans hwritten
    rw [hkept] at hjoined
    simp [Cell.text] at hjoined

/-- A character that takes one column or two is written, and then one that takes none: the second
joins the first, and nothing else changes, if and only if there is automatic wrapping or the first
is not in the last column. -/
theorem Reachable.joins_iff (h : s.Reachable) (hcols : 2 ≤ s.size.cols) {b z : Char}
    (hb : charWidth b = 1 ∨ charWidth b = 2) (hz : charWidth z = 0) :
    let written := (s.wrapFor (charWidth b)).cursor
    (s.put b).cell? written.row written.col = some ⟨[b], charWidth b⟩ ∧
      ((s.put b).Joins ((s.put b).put z) written.row written.col b z ↔
        (s.modes.autoWrap = true ∨ written.col + 1 < s.size.cols)) := by
  have hplace : s.put b = (s.wrapFor (charWidth b)).place b (charWidth b) :=
    put_eq_place_wrapFor (by omega)
  have hattach : (s.put b).put z = (s.put b).attach z := by
    rw [put, if_pos hz]
  rw [hattach, hplace]
  have hjoins := (h.framed.wrapFor (charWidth b)).joins_place_iff (s.wrapPending_wrapFor _) hb
    (overhangs_wrapFor hcols _) (by rwa [size_wrapFor]) b z
  rwa [modes_wrapFor, size_wrapFor] at hjoins

set_option maxRecDepth 2000 in
/-- A wide character that wraps, and an accent. -/
theorem joins_iff_wide :
    let s := ((blank ⟨2, 3⟩).put 'a').put 'b'
    (charWidth '好' = 2 ∧ charWidth '\u0301' = 0) ∧
      (s.put '好').Joins ((s.put '好').put '\u0301') 1 0 '好' '\u0301' := by
  intro s
  have hs : s.Reachable := .perform (.perform (.blank ⟨2, 3⟩) (.put 'a')) (.put 'b')
  have hwide : charWidth '好' = 2 := by decide
  have hmark : charWidth '\u0301' = 0 := by decide
  have hcursor : (s.wrapFor (charWidth '好')).cursor = ⟨1, 0, false⟩ := by decide
  have hjoins := (hs.joins_iff (by decide) (.inr hwide) hmark).2.2
    (.inl (by decide))
  rw [hcursor] at hjoins
  exact ⟨⟨hwide, hmark⟩, hjoins⟩

/-- Without automatic wrapping an accent that comes after a letter in the last column joins the
letter before. -/
theorem joined_in_front_of_last :
    let s := ((blank ⟨1, 2⟩).setPrivateMode 7 false).put 'a'
    ((s.put 'b').cell? 0 1).map Cell.text = some ['b'] ∧
      ((s.put 'b').put '\u0301').screenLines = [['a', '\u0301', 'b']] := by
  decide

end Screen

end TermSession
