import TermSession.Proofs.Terminal.Alike
import TermSession.Proofs.Terminal.Pages
import TermSession.Proofs.Terminal.Sound

/-!
# Pages at another size

Resizing moves the border between the scrollback and the grid, and cuts or adds blank rows at the
bottom.  A page of lines that fit two widths becomes the page of the same lines at the other size;
only the rows above the grid keep their old width.

* `Screen.allRows`: the rows above the grid and on it; `allRows_shrinkRows`, `allRows_growRows`;
* `Screen.resize_blank`: a blank screen stays blank;
* `Screen.IsPage`: a page of lines; `IsPage.shrinkRows`, `IsPage.growRows`, `IsPage.map_fit`;
* `Screen.Shows.resize_alike`: a page at another size.
-/

namespace TermSession

/-- Below the limit, rows are added at the end. -/
theorem Scrollback.toList_pushAll (sb : Scrollback) (rows : List Row)
    (h : sb.size + rows.length ≤ limit) : (sb.pushAll rows).toList = sb.toList ++ rows := by
  induction rows generalizing sb with
  | nil => simp [pushAll]
  | cons row rows ih =>
    rw [List.length_cons] at h
    have hpush : (sb.push row).toList = sb.toList ++ [row] := by
      rw [toList_push, if_pos (by omega)]
    have hsize : (sb.push row).size = sb.size + 1 := by
      rw [← length_toList, hpush]
      simp
    refine (ih (sb.push row) (by omega)).trans ?_
    rw [hpush, List.append_assoc]
    rfl

namespace Screen

/-- The rows above the grid and on it, from the top on. -/
def allRows (s : Screen) : List Row := s.scrollback.toList ++ s.lines.toList

variable {s : Screen}

theorem take_allRows (s : Screen) : s.allRows.take s.scrollback.size = s.scrollback.toList :=
  List.take_left' (Scrollback.length_toList _)

theorem drop_allRows (s : Screen) : s.allRows.drop s.scrollback.size = s.lines.toList :=
  List.drop_left' (Scrollback.length_toList _)

theorem length_allRows (s : Screen) : s.allRows.length = s.scrollback.size + s.lines.size := by
  simp [allRows]

/-- All rows show what the scrollback and the grid show. -/
theorem map_text_allRows (s : Screen) :
    s.allRows.map Row.text = s.scrollbackLines ++ s.screenLines := List.map_append

/-- A grid that loses rows gives the first of them to the scrollback. -/
theorem allRows_shrinkRows (rows : Nat) (hrow : s.cursor.row < s.lines.size)
    (hlimit : s.scrollback.size + (s.cursor.row + 1 - rows) ≤ Scrollback.limit) :
    (s.shrinkRows rows).scrollback.size = s.scrollback.size + (s.cursor.row + 1 - rows) ∧
      (s.shrinkRows rows).allRows =
        s.allRows.take (s.scrollback.size + (s.cursor.row + 1 - rows + rows)) := by
  generalize hexcess : s.cursor.row + 1 - rows = excess at hlimit ⊢
  have hlength : (s.lines.take excess).toList.length = excess := by
    simp only [Array.take_eq_extract, Array.length_toList, Array.size_extract]
    omega
  have hpush := s.scrollback.toList_pushAll (s.lines.take excess).toList (by omega)
  have hscrollback : (s.shrinkRows rows).scrollback =
      s.scrollback.pushAll (s.lines.take excess).toList := by
    rw [shrinkRows, hexcess]
  have hlines : (s.shrinkRows rows).lines = s.lines.extract excess (excess + rows) := by
    rw [shrinkRows, hexcess]
  constructor
  · rw [← Scrollback.length_toList, hscrollback, hpush, List.length_append, hlength,
      Scrollback.length_toList]
  · rw [allRows, hscrollback, hlines, hpush, allRows, ← Scrollback.length_toList,
      List.take_length_add_append, List.append_assoc]
    simp [List.extract_eq_take_drop, List.take_add]

/-- A grid that gains rows takes rows back from the scrollback, and then adds blank ones. -/
theorem allRows_growRows (s : Screen) (rows : Nat) :
    let pulled := min (rows - s.size.rows) s.scrollback.size
    (s.growRows rows).scrollback.size = s.scrollback.size - pulled ∧
      (s.growRows rows).allRows =
        s.allRows ++ List.replicate (rows - (pulled + s.lines.size)) s.blankRow := by
  intro pulled
  obtain ⟨hnewest, hrest⟩ := s.scrollback.toList_pull []
    (Nat.min_le_right (rows - s.size.rows) s.scrollback.size)
  have hsize := Scrollback.length_toList s.scrollback
  have hpulled : pulled ≤ s.scrollback.size := Nat.min_le_right _ _
  rw [List.append_nil] at hnewest
  constructor
  · rw [← Scrollback.length_toList]
    simp only [growRows, hrest, List.length_take, hsize]
    exact Nat.min_eq_left (Nat.sub_le _ _)
  · have hlength : (s.scrollback.pull [] pulled).1.length = pulled := by
      rw [hnewest, List.length_drop, hsize]
      omega
    have htogether : (s.scrollback.pull [] pulled).2.toList ++ (s.scrollback.pull [] pulled).1 =
        s.scrollback.toList := by
      rw [hnewest, hrest, List.take_append_drop]
    rw [allRows, allRows, ← htogether]
    simp [growRows, pulled, hlength]

/-- A blank screen is blank at every other size. -/
theorem resize_blank {a b : Size} (hb : 0 < b.rows ∧ 0 < b.cols) :
    (blank a).resize b = blank b := by
  have hsize := Size.atLeastOne_eq hb.1 hb.2
  have ha := a.atLeastOne_pos
  have hfit : (Row.blank a.atLeastOne.cols).fit b.cols = Row.blank b.cols := by
    rw [← Row.lay_nil, Row.fit_lay (by simp [Row.typed]) (by simp [Row.typed]), Row.lay_nil]
  by_cases hlt : b.rows < a.atLeastOne.rows
  · have hone : 1 - b.rows = 0 := by omega
    simp [resize, blank, hsize, hlt, shrinkRows, blankLines, Scrollback.pushAll, hfit, hone]
    omega
  · have hgrow : a.atLeastOne.rows + (b.rows - a.atLeastOne.rows) = b.rows := by omega
    simp [resize, blank, hsize, hlt, growRows, blankLines, blankRow, Scrollback.pull, hfit, hgrow,
      Array.replicate_append_replicate]

/-! ### Pages -/

/-- The screen of a page of lines: as many of the last rows as there are on a grid of `rows` rows
stand on it, the others above it, and the cursor is on the last line. -/
structure IsPage (s : Screen) (rows cols : Nat) (lines : List Text) (col : Nat) : Prop where
  size_scrollback : s.scrollback.size = lines.length - rows
  allRows_eq : s.allRows = (lines ++ List.replicate (rows - lines.length) []).map (Row.lay cols)
  cursor_eq : s.cursor = ⟨min (lines.length - 1) (rows - 1), col, false⟩

variable {rows rows' cols : Nat} {lines : List Text} {col : Nat}

namespace IsPage

theorem size_lines (h : s.IsPage rows cols lines col) : s.lines.size = rows := by
  rw [← Array.length_toList, ← drop_allRows, h.allRows_eq, h.size_scrollback]
  simp only [List.length_drop, List.length_map, List.length_append, List.length_replicate]
  omega

/-- A page on fewer rows. -/
theorem shrinkRows (h : s.IsPage rows cols lines col) (hlines : 0 < lines.length)
    (hrows' : 0 < rows') (hlt : rows' < rows) (hlimit : lines.length ≤ rows' + Scrollback.limit) :
    (s.shrinkRows rows').IsPage rows' cols lines col := by
  have hrow : s.cursor.row + 1 = min lines.length rows := by
    simp only [h.cursor_eq]
    omega
  have hleaving : lines.length - rows + (min lines.length rows - rows') = lines.length - rows' := by
    clear h hrow
    omega
  have hcount := h.size_lines
  have hsize := h.size_scrollback
  obtain ⟨habove, hall⟩ := allRows_shrinkRows (s := s) rows' (by omega) (by
    rw [hrow, hsize, hleaving]
    exact Nat.sub_le_iff_le_add'.2 hlimit)
  rw [hrow, hsize] at habove hall
  refine ⟨habove.trans hleaving, ?_, ?_⟩
  · rw [hall, h.allRows_eq, ← List.map_take, ← Nat.add_assoc, hleaving, List.take_append,
      List.take_of_length_le (by omega), List.take_replicate]
    congr 3
    omega
  · rw [Screen.shrinkRows, hrow, h.cursor_eq, Cursor.mk.injEq]
    exact ⟨by simp only; omega, rfl, rfl⟩

/-- A page on more rows. -/
theorem growRows (h : s.IsPage rows cols lines col) (hsize : s.size.rows = rows)
    (hcols : s.size.cols = cols) (hlines : 0 < lines.length) (hrows : 0 < rows)
    (hle : rows ≤ rows') : (s.growRows rows').IsPage rows' cols lines col := by
  have hcount := h.size_lines
  obtain ⟨habove, hall⟩ := s.allRows_growRows rows'
  rw [hsize, h.size_scrollback] at habove hall
  refine ⟨by omega, ?_, ?_⟩
  · rw [hall, h.allRows_eq, blankRow, hcols, ← Row.lay_nil, ← List.map_replicate, ← List.map_append,
      List.append_assoc, List.replicate_append_replicate, hcount]
    congr 3
    omega
  · rw [Screen.growRows, h.cursor_eq, h.size_scrollback, hsize, Cursor.mk.injEq]
    exact ⟨by simp only; omega, rfl, rfl⟩

/-- What the page has above the grid does not depend on the width. -/
theorem scrollbackLines_eq (h : s.IsPage rows cols lines col) :
    s.scrollbackLines = ((lines ++ List.replicate (rows - lines.length) []).take
      (lines.length - rows)).map fun t => Text.trimEnd (Text.dropMarks t) := by
  rw [scrollbackLines, ← take_allRows, h.allRows_eq, h.size_scrollback, ← List.map_take,
    List.map_map]
  exact List.map_congr_left fun t _ => Row.text_lay cols t

/-- The rows of a page are cut or padded to those of a page of another width. -/
theorem map_fit {s' : Screen} {cols' : Nat} (h : s.IsPage rows cols lines col)
    (h' : s'.IsPage rows cols' lines col)
    (hfit : ∀ l ∈ lines, (Row.typed l).size ≤ cols ∧ (Row.typed l).size ≤ cols') :
    s.lines.map (Row.fit · cols') = s'.lines := by
  apply Array.toList_inj.1
  rw [Array.toList_map, ← drop_allRows, ← drop_allRows, h.allRows_eq, h'.allRows_eq,
    h.size_scrollback, h'.size_scrollback, List.map_drop, List.map_map]
  refine congrArg (List.drop _) (List.map_congr_left fun t ht => ?_)
  have hsize : (Row.typed t).size ≤ cols ∧ (Row.typed t).size ≤ cols' := by
    rcases List.mem_append.1 ht with ht | ht
    · exact hfit t ht
    · simp [(List.mem_replicate.1 ht).2, Row.typed]
  rw [Function.comp_apply, Row.fit_lay hsize.1 hsize.2]

end IsPage

variable {a b : Size}

/-- The rows of a screen that shows lines are the lines, with empty ones up to the bottom. -/
theorem Shows.allRows_eq {cursor : Cursor} (h : s.Shows a (lines.map (Row.lay a.cols)) cursor) :
    s.allRows = (lines ++ List.replicate (a.rows - lines.length) []).map (Row.lay a.cols) := by
  rw [allRows, h.above, h.lines, ← List.append_assoc, List.take_append_drop]
  simp

theorem Shows.isPage (h : s.Shows a (lines.map (Row.lay a.cols))
      ⟨lastRow a (lines.map (Row.lay a.cols)), col, false⟩) :
    s.IsPage a.rows a.cols lines col where
  size_scrollback := by
    rw [← Scrollback.length_toList, h.above, List.length_take, List.length_map]
    omega
  allRows_eq := h.allRows_eq
  cursor_eq := by
    rw [h.cursor, lastRow, List.length_map]

/-- Resizing first moves the border, and then takes the new width. -/
theorem Shows.exists_resize (h : s.Shows a (lines.map (Row.lay a.cols))
      ⟨lastRow a (lines.map (Row.lay a.cols)), col, false⟩)
    (ha : 0 < a.rows) (hb : 0 < b.rows ∧ 0 < b.cols) (hlines : lines ≠ [])
    (hlimit : lines.length ≤ b.rows + Scrollback.limit) :
    ∃ s₁ : Screen, s₁.IsPage b.rows a.cols lines col ∧ s₁.savedCursor = none ∧ s₁.modes = {} ∧
      s.resize b = { s₁ with
        size := b
        lines := s₁.lines.map (Row.fit · b.cols)
        margins := fullMargins b
        cursor := ⟨min s₁.cursor.row (b.rows - 1), min s₁.cursor.col (b.cols - 1), false⟩ } := by
  have hsize := Size.atLeastOne_eq hb.1 hb.2
  have hlength := List.length_pos_iff.2 hlines
  by_cases hlt : b.rows < a.rows
  · refine ⟨s.shrinkRows b.rows, h.isPage.shrinkRows hlength hb.1 hlt hlimit, h.savedCursor,
      h.modes, ?_⟩
    simp only [resize, hsize, h.size, if_pos hlt]
  · refine ⟨s.growRows b.rows, h.isPage.growRows (by rw [h.size]) (by rw [h.size]) hlength ha
      (Nat.not_lt.1 hlt), h.savedCursor, h.modes, ?_⟩
    simp only [resize, hsize, h.size, if_neg hlt]

/-- A page that is resized is like the page of the same lines at the new size. -/
theorem Shows.resize_alike {s' : Screen}
    (h : s.Shows a (lines.map (Row.lay a.cols))
      ⟨lastRow a (lines.map (Row.lay a.cols)), col, false⟩)
    (h' : s'.Shows b (lines.map (Row.lay b.cols))
      ⟨lastRow b (lines.map (Row.lay b.cols)), col, false⟩)
    (ha : 0 < a.rows) (hb : 0 < b.rows ∧ 0 < b.cols) (hlines : lines ≠ [])
    (hlimit : lines.length ≤ b.rows + Scrollback.limit) (hcol : col < b.cols)
    (hfit : ∀ l ∈ lines, (Row.typed l).size ≤ a.cols ∧ (Row.typed l).size ≤ b.cols) :
    (s.resize b).Alike s' := by
  obtain ⟨s₁, hpage, hsaved, hmodes, hresize⟩ := h.exists_resize ha hb hlines hlimit
  have hpage' := h'.isPage
  have hlines' : s₁.lines.map (Row.fit · b.cols) = s'.lines := hpage.map_fit hpage' hfit
  have hrow : min s₁.cursor.row (b.rows - 1) = s'.cursor.row := by
    simp only [hpage.cursor_eq, hpage'.cursor_eq]
    omega
  have hcol' : min s₁.cursor.col (b.cols - 1) = s'.cursor.col := by
    simp only [hpage.cursor_eq, hpage'.cursor_eq]
    omega
  have hcursor : (⟨s'.cursor.row, s'.cursor.col, false⟩ : Cursor) = s'.cursor := by
    rw [hpage'.cursor_eq]
  rw [hresize]
  refine ⟨?_, ?_⟩
  · simp only [visible, hlines', hrow, hcol', hcursor, hsaved, hmodes, h'.size, h'.savedCursor,
      h'.modes, h'.margins]
  · exact hpage.scrollbackLines_eq.trans hpage'.scrollbackLines_eq.symm

end Screen

end TermSession
