import Mathlib.Data.List.DropRight
import TermSession.Proofs.Terminal.Pairs
import TermSession.Proofs.Terminal.Reachable

/-!
# Resizing keeps the document

A screen that is not made narrower keeps its lines, whatever rows it is given: rows move between the
grid and the scrollback, and what is cut or added at the bottom is empty.

* `Row.FitsIn`, `Row.text_fit`: rows that show the same at another width;
* `Screen.allLines`, `Screen.document`: the lines, and those down to the last that shows anything;
* `Screen.exists_moved`: what moving the border of the grid does to its rows;
* `Screen.exists_allLines_resize`: what a new size does to the lines;
* `Screen.FitsIn.resize`, `Screen.document_resizeAll`: one size, and one after another.
-/

namespace TermSession

namespace Row

/-- The row shows the same in `cols` columns: only blanks stand behind them, and the last of them
has no left half of a wide character. -/
structure FitsIn (row : Row) (cols : Nat) : Prop where
  blank_behind : ∀ c ∈ shown (row.toList.drop cols), c = ' '
  whole : row.widthAt (cols - 1) ≠ 2

instance (row : Row) (cols : Nat) : Decidable (row.FitsIn cols) :=
  decidable_of_iff
    ((shown (row.toList.drop cols)).all (· = ' ') = true ∧ row.widthAt (cols - 1) ≠ 2)
    ⟨fun h => ⟨by simpa using h.1, h.2⟩, fun h => ⟨by simpa using h.1, h.2⟩⟩

variable {row : Row} {cols : Nat}

/-- A row with no more cells than columns has nothing behind them. -/
theorem fitsIn_of_size_le (h : row.size ≤ cols) (hw : row.widthAt (cols - 1) ≠ 2) :
    row.FitsIn cols where
  blank_behind := by
    rw [List.drop_eq_nil_of_le (by simpa using h)]
    exact List.forall_mem_nil _
  whole := hw

@[simp] theorem text_blank (n : Nat) : (blank n).text = [] := by
  rw [← lay_nil, text_lay]
  rfl

theorem fitsIn_blank (n cols : Nat) : (blank n).FitsIn cols where
  blank_behind := by
    rw [blank, Array.toList_replicate, List.drop_replicate, ← Array.toList_replicate, ← blank,
      shown_blank]
    exact fun c hc => (List.mem_replicate.1 hc).2
  whole := by simp

theorem fitsIn_fit (row : Row) (cols : Nat) : (row.fit cols).FitsIn cols := by
  refine fitsIn_of_size_le (Nat.le_of_eq (size_fit row cols)) ?_
  by_cases hcols : 0 < cols
  · rw [widthAt_fit row (by omega)]
    grind
  · rw [widthAt_of_le (by simp; omega)]
    decide

/-- Fitting a row blanks no cell but the last, and this only if it is the left half of a wide
character. -/
theorem fit_eq (h : row.widthAt (cols - 1) ≠ 2) :
    row.fit cols = row.take cols ++ blank (cols - row.size) := by
  have hlast : widthAt (row.take cols ++ blank (cols - row.size)) (cols - 1) ≠ 2 := by
    by_cases hcols : 0 < cols
    · rwa [widthAt_take_append_blank row (by omega)]
    · rw [widthAt_of_le (by rw [size_take_append_blank]; omega)]
      decide
  rw [fit, mendEnd, Array.back?_eq_getElem?, size_take_append_blank,
    if_neg (mt (any_width_eq_iff _ _).1 hlast)]

/-- A row that fits is fitted without a change to what it shows. -/
theorem text_fit (h : row.FitsIn cols) : (row.fit cols).text = row.text := by
  have hbehind : shown (row.toList.drop cols) =
      List.replicate (shown (row.toList.drop cols)).length ' ' :=
    List.eq_replicate_iff.2 ⟨rfl, h.blank_behind⟩
  rw [fit_eq h.whole, text_eq_trimEnd, text_eq_trimEnd, Array.toList_append, shown_append,
    shown_blank, Text.trimEnd_append_spaces]
  conv => rhs; rw [← List.take_append_drop cols row.toList, shown_append, hbehind,
    Text.trimEnd_append_spaces]
  simp [Array.take_eq_extract, List.extract_eq_take_drop]

end Row

/-- Empty lines at the end are left out. -/
theorem rdropWhile_append_empty (lines : List Text) {rest : List Text} (h : ∀ t ∈ rest, t = []) :
    (lines ++ rest).rdropWhile List.isEmpty = lines.rdropWhile List.isEmpty := by
  have hempty : ∀ t ∈ rest.reverse, t.isEmpty = true := by simpa using h
  rw [List.rdropWhile, List.rdropWhile, List.reverse_append, List.dropWhile_append_of_pos hempty]

/-- Lines are cut or added where all of them are empty. -/
theorem rdropWhile_cut {lines lines' : List Text} {i n k : Nat}
    (hlines : lines' = lines.take n ++ List.replicate k []) (hi : i < n)
    (hempty : ∀ t ∈ lines.drop (i + 1), t = []) :
    lines'.rdropWhile List.isEmpty = lines.rdropWhile List.isEmpty ∧
      ∀ t ∈ lines'.drop (i + 1), t = [] := by
  have hadded : ∀ t ∈ List.replicate k ([] : Text), t = [] :=
    fun t ht => (List.mem_replicate.1 ht).2
  have hcut : ∀ t ∈ lines.drop n, t = [] := by
    obtain ⟨m, rfl⟩ := Nat.exists_eq_add_of_le hi
    rw [← List.drop_drop]
    exact fun t ht => hempty t (List.mem_of_mem_drop ht)
  constructor
  · calc lines'.rdropWhile List.isEmpty
        = (lines.take n).rdropWhile List.isEmpty := by
          rw [hlines, rdropWhile_append_empty _ hadded]
      _ = (lines.take n ++ lines.drop n).rdropWhile List.isEmpty :=
          (rdropWhile_append_empty _ hcut).symm
      _ = lines.rdropWhile List.isEmpty := by rw [List.take_append_drop]
  · rw [hlines, List.drop_append, List.forall_mem_append]
    refine ⟨fun t ht => hempty t ?_, fun t ht => hadded t (List.mem_of_mem_drop ht)⟩
    rw [List.drop_take] at ht
    exact List.mem_of_mem_take ht

namespace Screen

/-- What the scrollback and the grid show, line by line. -/
def allLines (s : Screen) : List Text := s.scrollbackLines ++ s.screenLines

/-- The lines without the empty ones at the end. -/
def document (s : Screen) : List Text := s.allLines.rdropWhile List.isEmpty

/-- Gives the grid one number of rows after another, and `cols` columns. -/
def resizeAll (s : Screen) (cols : Nat) (counts : List Nat) : Screen :=
  counts.foldl (fun s rows => s.resize ⟨rows, cols⟩) s

/-- The index of the cursor's line in the scrollback and the grid. -/
def lineIndex (s : Screen) : Nat := s.scrollback.size + s.cursor.row

variable {s : Screen}

theorem allLines_eq (s : Screen) : s.allLines = s.allRows.map Row.text := (map_text_allRows s).symm

theorem drop_allLines (s : Screen) :
    s.allLines.drop (s.lineIndex + 1) = s.screenLines.drop (s.cursor.row + 1) := by
  have hlength : s.scrollbackLines.length = s.scrollback.size := by simp [scrollbackLines]
  rw [allLines, lineIndex, Nat.add_assoc, ← hlength, List.drop_length_add_append]

/-- A grid whose border is moved has the same rows down to the cursor, and then the same or blank
ones. -/
theorem exists_moved (h : s.Framed) (rows : Nat)
    (hlimit : s.scrollback.size + (s.cursor.row + 1 - rows) ≤ Scrollback.limit) (hpos : 0 < rows) :
    ∃ n k, let s' := if rows < s.size.rows then s.shrinkRows rows else s.growRows rows
      s'.allRows = s.allRows.take n ++ List.replicate k s.blankRow ∧ s.lineIndex < n ∧
        s'.lineIndex = s.lineIndex ∧ s'.cursor.row < rows ∧ s'.cursor.col = s.cursor.col := by
  have hrow := h.row_lt
  have hsize := h.size_lines
  by_cases hlt : rows < s.size.rows
  · obtain ⟨habove, hall⟩ := s.allRows_shrinkRows rows (by omega) hlimit
    refine ⟨s.scrollback.size + (s.cursor.row + 1 - rows + rows), 0, ?_⟩
    simp only [if_pos hlt]
    refine ⟨by simpa using hall, ?_, ?_, ?_, rfl⟩
    · rw [lineIndex]
      omega
    · rw [lineIndex, lineIndex, habove]
      simp only [shrinkRows]
      omega
    · simp only [shrinkRows]
      omega
  · obtain ⟨habove, hall⟩ := s.allRows_growRows rows
    have hlength := s.length_allRows
    refine ⟨s.allRows.length,
      rows - (min (rows - s.size.rows) s.scrollback.size + s.lines.size), ?_⟩
    simp only [if_neg hlt]
    refine ⟨by rw [List.take_length, hall], ?_, ?_, ?_, rfl⟩
    · rw [lineIndex]
      omega
    · rw [lineIndex, lineIndex, habove]
      simp only [growRows]
      omega
    · simp only [growRows]
      omega

/-- Fitting the rows of the grid changes no line, if they fit. -/
theorem allLines_fit {cols : Nat} (h : ∀ row ∈ s.allRows, row.FitsIn cols) {s' : Screen}
    (hscrollback : s'.scrollback = s.scrollback) (hlines : s'.lines = s.lines.map (·.fit cols)) :
    s'.allLines = s.allLines ∧ ∀ row ∈ s'.allRows, row.FitsIn cols := by
  simp only [allRows, List.forall_mem_append] at h
  constructor
  · rw [allLines_eq, allLines_eq, allRows, allRows, hscrollback, hlines, List.map_append,
      List.map_append, Array.toList_map, List.map_map]
    exact congrArg _ (List.map_congr_left fun row hrow => Row.text_fit (h.2 row hrow))
  · rw [allRows, hscrollback, hlines, Array.toList_map, List.forall_mem_append]
    exact ⟨h.1, List.forall_mem_map.2 fun row _ => Row.fitsIn_fit row cols⟩

/-- A new size cuts lines below the cursor or adds empty ones, and keeps all others. -/
theorem exists_allLines_resize (h : s.Framed) {cols : Nat} (hcols : s.size.cols ≤ cols)
    (hfits : ∀ row ∈ s.allRows, row.FitsIn cols) {rows : Nat}
    (hlimit : s.lineIndex + 1 ≤ max rows 1 + Scrollback.limit) :
    let s' := s.resize ⟨rows, cols⟩
    (∃ n k, s.lineIndex < n ∧ s'.allLines = s.allLines.take n ++ List.replicate k []) ∧
      (∀ row ∈ s'.allRows, row.FitsIn cols) ∧ s'.size = ⟨max rows 1, cols⟩ ∧
      s'.lineIndex = s.lineIndex ∧ s'.cursor.col = s.cursor.col := by
  intro s'
  have hcol := h.col_lt
  have hfull := h.size_scrollback
  have hsize : (⟨rows, cols⟩ : Size).atLeastOne = ⟨max rows 1, cols⟩ := by
    rw [Size.atLeastOne, Nat.max_eq_left (show 1 ≤ cols by omega)]
  obtain ⟨n, k, hall, hn, hindex, hrow, hcol'⟩ := exists_moved h (max rows 1)
    (by rw [lineIndex] at hlimit; omega) (Nat.le_max_right _ _)
  generalize hmoved : (if max rows 1 < s.size.rows then s.shrinkRows (max rows 1)
    else s.growRows (max rows 1)) = moved at hall hindex hrow hcol'
  have hresize : s' = { moved with
      size := ⟨max rows 1, cols⟩
      lines := moved.lines.map (·.fit cols)
      margins := fullMargins ⟨max rows 1, cols⟩
      cursor :=
        ⟨min moved.cursor.row (max rows 1 - 1), min moved.cursor.col (cols - 1), false⟩ } := by
    simp only [s', Screen.resize, hsize, hmoved]
  have hrows : ∀ row ∈ moved.allRows, row.FitsIn cols := by
    rw [hall, List.forall_mem_append]
    refine ⟨fun row hmem => hfits row (List.mem_of_mem_take hmem), fun row hmem => ?_⟩
    rw [(List.mem_replicate.1 hmem).2, blankRow]
    exact Row.fitsIn_blank _ _
  obtain ⟨hlines, hrows'⟩ := @allLines_fit moved cols hrows s' (by rw [hresize]) (by rw [hresize])
  refine ⟨⟨n, k, hn, ?_⟩, hrows', ?_, ?_, ?_⟩
  · rw [hlines, allLines_eq, hall, allLines_eq, List.map_append, List.map_take, List.map_replicate,
      blankRow, Row.text_blank]
  · rw [hresize]
  · rw [← hindex, lineIndex, lineIndex, hresize]
    dsimp only
    omega
  · rw [hresize]
    dsimp only
    omega

/-- The screen can be given `cols` columns: its rows show the same there, and below the cursor
stands nothing. -/
structure FitsIn (s : Screen) (cols : Nat) : Prop where
  framed : s.Framed
  cols_le : s.size.cols ≤ cols
  rows_fit : ∀ row ∈ s.allRows, row.FitsIn cols
  below : ∀ t ∈ s.allLines.drop (s.lineIndex + 1), t = []

/-- A new size keeps the document, and the screen can be given another. -/
theorem FitsIn.resize {cols : Nat} (h : s.FitsIn cols) {rows : Nat}
    (hlimit : s.lineIndex + 1 ≤ max rows 1 + Scrollback.limit) :
    let s' := s.resize ⟨rows, cols⟩
    s'.FitsIn cols ∧ s'.size = ⟨max rows 1, cols⟩ ∧ s'.document = s.document ∧
      s'.lineIndex = s.lineIndex ∧ s'.cursor.col = s.cursor.col := by
  obtain ⟨⟨n, k, hn, hlines⟩, hrows, hsize, hindex, hcol⟩ :=
    exists_allLines_resize h.framed h.cols_le h.rows_fit hlimit
  obtain ⟨hdocument, hbelow⟩ := rdropWhile_cut hlines hn h.below
  rw [← hindex] at hbelow
  exact ⟨⟨h.framed.resize _, by rw [hsize], hrows, hbelow⟩, hsize, hdocument, hindex, hcol⟩

/-- Any numbers of rows, one after another. -/
theorem FitsIn.resizeAll {cols : Nat} (h : s.FitsIn cols) {counts : List Nat}
    (hlimit : ∀ rows ∈ counts, s.lineIndex + 1 ≤ max rows 1 + Scrollback.limit) :
    let s' := s.resizeAll cols counts
    s'.FitsIn cols ∧ (∀ rows, counts.getLast? = some rows → s'.size = ⟨max rows 1, cols⟩) ∧
      s'.document = s.document ∧ s'.lineIndex = s.lineIndex ∧ s'.cursor.col = s.cursor.col := by
  induction counts using List.reverseRecOn with
  | nil =>
    refine ⟨h, fun rows hrows => ?_, rfl, rfl, rfl⟩
    cases hrows
  | append_singleton counts rows ih =>
    simp only [List.forall_mem_append, List.forall_mem_singleton] at hlimit
    obtain ⟨hfits, -, hdocument, hindex, hcol⟩ := ih hlimit.1
    rw [← hindex] at hlimit
    obtain ⟨hfits', hsize, hdocument', hindex', hcol'⟩ := hfits.resize hlimit.2
    have hlast : s.resizeAll cols (counts ++ [rows]) =
        (s.resizeAll cols counts).resize ⟨rows, cols⟩ := List.foldl_concat ..
    rw [hlast]
    refine ⟨hfits', fun r hr => ?_, hdocument'.trans hdocument, hindex'.trans hindex,
      hcol'.trans hcol⟩
    rw [List.getLast?_concat, Option.some.injEq] at hr
    rw [← hr, hsize]

/-- A screen in which nothing stands below the cursor is given a width that is not smaller and that
every row fits, and any number of rows, once or more often.  As long as the scrollback can hold all
rows that it is given, the lines stay the same up to empty ones at the end, and the cursor stays on
its line and in its column. -/
theorem document_resizeAll (h : s.Reachable) {cols : Nat} (hcols : s.size.cols ≤ cols)
    (hbelow : ∀ t ∈ s.screenLines.drop (s.cursor.row + 1), t = [])
    (hfits : ∀ row ∈ s.allRows, row.FitsIn cols) {counts : List Nat}
    (hlimit : ∀ rows ∈ counts,
      s.scrollback.size + (s.cursor.row + 1 - max rows 1) ≤ Scrollback.limit) :
    let s' := s.resizeAll cols counts
    s'.document = s.document ∧
      s'.scrollback.size + s'.cursor.row = s.scrollback.size + s.cursor.row ∧
      s'.cursor.col = s.cursor.col ∧
      ∀ rows, counts.getLast? = some rows → s'.screenLines.length = max rows 1 := by
  intro s'
  have hfitsIn : s.FitsIn cols := ⟨h.framed, hcols, hfits, by rwa [drop_allLines]⟩
  have hlimit' : ∀ rows ∈ counts, s.lineIndex + 1 ≤ max rows 1 + Scrollback.limit := by
    intro rows hrows
    have := hlimit rows hrows
    rw [lineIndex]
    omega
  obtain ⟨hfitsIn', hsize, hdocument, hindex, hcol⟩ := hfitsIn.resizeAll hlimit'
  refine ⟨hdocument, hindex, hcol, fun rows hrows => ?_⟩
  rw [screenLines, List.length_map, Array.length_toList, hfitsIn'.framed.size_lines,
    hsize rows hrows]

/-- A row above the grid, six cells long, in five columns. -/
theorem document_resizeAll_ab :
    let s := (Display.performAll (Surface.new ⟨1, 6⟩)
      [.write (Utf8.encode ['a', 'b', '\r', '\n', '你']), .resize ⟨1, 4⟩]).screen
    s.size.cols ≤ 5 ∧ (∀ t ∈ s.screenLines.drop (s.cursor.row + 1), t = []) ∧
      (∀ row ∈ s.allRows, row.FitsIn 5) ∧
      (∀ rows ∈ [2, 1, 3],
        s.scrollback.size + (s.cursor.row + 1 - max rows 1) ≤ Scrollback.limit) ∧
      (s.resizeAll 5 [2, 1, 3]).document = s.document := by
  intro s
  have hs : s.Reachable := Surface.reachable_performAll _ _
  have hcols : s.size.cols ≤ 5 := by decide
  have hbelow : ∀ t ∈ s.screenLines.drop (s.cursor.row + 1), t = [] := by decide +kernel
  have hfits : ∀ row ∈ s.allRows, row.FitsIn 5 := by decide +kernel
  have hfew : ∀ rows ∈ [2, 1, 3], s.scrollback.size + (s.cursor.row + 1 - max rows 1) ≤ 1 := by
    decide +kernel
  have hlimit : ∀ rows ∈ [2, 1, 3],
      s.scrollback.size + (s.cursor.row + 1 - max rows 1) ≤ Scrollback.limit :=
    fun rows hrows => Nat.le_trans (hfew rows hrows) (by decide)
  exact ⟨hcols, hbelow, hfits, hlimit, (document_resizeAll hs hcols hbelow hfits hlimit).1⟩

end Screen

end TermSession
