import TermSession.Proofs.Terminal.Layout
import TermSession.Proofs.Terminal.Typing

/-!
# Pages of rows

A screen to which lines were typed shows the last of them from the top on; those that came before
are above it.

* `Screen.typedOn`: a row on which something is typed, with the cursor behind it;
* `Screen.Shows`: the screen after rows that were filled one after the other;
* `Surface.write_lines`: what lines joined by new lines make of a screen.
-/

namespace TermSession

namespace Screen

/-! ### One row -/

/-- The screen with cells at the start of a row, and the cursor behind them. -/
def typedOn (s : Screen) (r : Nat) (row : Row) : Screen :=
  { s with
    lines := s.lines.setIfInBounds r (row ++ Row.blank (s.size.cols - row.size))
    cursor := ⟨r, min row.size (s.size.cols - 1), decide (row.size = s.size.cols)⟩ }

theorem typedOn_empty {s : Screen} {r : Nat} (hrow : s.lines[r]? = some (Row.blank s.size.cols))
    (hcursor : s.cursor = ⟨r, 0, false⟩) (hcols : 0 < s.size.cols) : s.typedOn r #[] = s := by
  have hlines : s.lines.setIfInBounds r (Row.blank s.size.cols) = s.lines := by
    obtain ⟨hr, hget⟩ := Array.getElem?_eq_some_iff.1 hrow
    rw [Array.setIfInBounds_def, dif_pos hr, ← hget, Array.set_getElem_self]
  have hne : ¬ 0 = s.size.cols := by omega
  obtain ⟨size, lines, scrollback, cursor, savedCursor, modes, title, margins⟩ := s
  subst hcursor
  simp_all [typedOn]

theorem modify_setIfInBounds (lines : Array Row) {r : Nat} (hr : r < lines.size) (row : Row)
    (f : Row → Row) : (lines.setIfInBounds r row).modify r f = lines.setIfInBounds r (f row) := by
  apply Array.ext_getElem?
  intro i
  simp [Array.getElem?_modify, Array.getElem?_setIfInBounds]
  by_cases h : r = i
  · subst h
    simp [hr]
  · simp [h]

theorem put_eq_place {s : Screen} {c : Char} (hc : charWidth c ≠ 0)
    (hpending : s.cursor.wrapPending = false) (hover : s.overhangs (charWidth c) = false) :
    s.put c = s.place c (charWidth c) := by
  simp [put, hc, hpending, hover]

variable {s : Screen} {r : Nat} {row : Row}

theorem attach_typedOn (hr : r < s.lines.size) (hcols : 0 < s.size.cols)
    (hsize : row.size ≤ s.size.cols) (c : Char) :
    (s.typedOn r row).attach c = s.typedOn r (row.attach c row.size) := by
  have hstop : (s.typedOn r row).cursor.col +
      (if (s.typedOn r row).cursor.wrapPending then 1 else 0) = row.size := by
    simp only [typedOn, decide_eq_true_eq]
    split <;> omega
  have hlines : (s.typedOn r row).lines.modify r (·.attach c row.size) =
      (s.typedOn r (row.attach c row.size)).lines := by
    simp only [typedOn, modify_setIfInBounds _ hr, Row.attach_append _ _ _ (Nat.le_refl _),
      Row.size_attach]
  have hcursor : (s.typedOn r (row.attach c row.size)).cursor = (s.typedOn r row).cursor := by
    simp only [typedOn, Row.size_attach]
  rw [attach, hstop]
  exact Screen.mk.injEq .. |>.mpr ⟨rfl, hlines, rfl, hcursor.symm, rfl, rfl, rfl, rfl⟩

theorem place_typedOn (hr : r < s.lines.size) (hwrap : s.modes.autoWrap = true) {c : Char}
    (h₀ : 0 < charWidth c) (h₂ : charWidth c ≤ 2) (hfit : row.size + charWidth c ≤ s.size.cols) :
    (s.typedOn r row).place c (charWidth c) = s.typedOn r (row.typeOn c) := by
  have hsize := Row.size_typeOn row h₂
  have hcol : (s.typedOn r row).cursor.col = row.size := by
    simp only [typedOn]
    omega
  have hlines : (s.typedOn r row).lines.modify r (·.write row.size c (charWidth c)) =
      (s.typedOn r (row.typeOn c)).lines := by
    simp only [typedOn, modify_setIfInBounds _ hr]
    rw [Row.write_append_blank row h₀ h₂ (by omega), hsize, Nat.sub_sub]
  have hpending : (s.typedOn r row).cursor.wrapPending = false := by
    simp only [typedOn, decide_eq_false_iff_not]
    omega
  dsimp only [place]
  rw [hcol]
  split
  · rename_i h
    have hfull : row.size + charWidth c = s.size.cols := by
      have : s.size.cols ≤ row.size + charWidth c := h
      omega
    have hcursor : (s.typedOn r (row.typeOn c)).cursor = ⟨r, s.size.cols - 1, s.modes.autoWrap⟩ := by
      simp [typedOn, hsize, hfull, hwrap]
    exact Screen.mk.injEq .. |>.mpr ⟨rfl, hlines, rfl, hcursor.symm, rfl, rfl, rfl, rfl⟩
  · rename_i h
    have hless : row.size + charWidth c < s.size.cols := by
      have : ¬ s.size.cols ≤ row.size + charWidth c := h
      omega
    have hmin : min (row.size + charWidth c) (s.size.cols - 1) = row.size + charWidth c := by omega
    have hcursor : (s.typedOn r (row.typeOn c)).cursor =
        ⟨r, row.size + charWidth c, (s.typedOn r row).cursor.wrapPending⟩ := by
      rw [hpending]
      simp [typedOn, hsize, hmin, Nat.ne_of_lt hless]
    exact Screen.mk.injEq .. |>.mpr ⟨rfl, hlines, rfl, hcursor.symm, rfl, rfl, rfl, rfl⟩

/-- A character that fits is put behind what is typed. -/
theorem put_typedOn (hr : r < s.lines.size) (hwrap : s.modes.autoWrap = true)
    (hcols : 0 < s.size.cols) {c : Char} (hc : charWidth c ≤ 2)
    (hfit : row.size + charWidth c ≤ s.size.cols) :
    (s.typedOn r row).put c = s.typedOn r (row.typeOn c) := by
  by_cases h₀ : charWidth c = 0
  · rw [Row.typeOn_zero row h₀, ← attach_typedOn hr hcols (by omega)]
    simp [put, h₀]
  · rw [put_eq_place h₀, place_typedOn hr hwrap (by omega) hc hfit]
    · simp only [typedOn, decide_eq_false_iff_not]
      omega
    · have hover : ¬ (charWidth c = 2 ∧ s.size.cols ≤ min row.size (s.size.cols - 1) + 1) := by
        omega
      simp only [overhangs, typedOn]
      grind

/-- A text that fits is put behind what is typed. -/
theorem putAll_typedOn (row : Row) (hr : r < s.lines.size) (hwrap : s.modes.autoWrap = true)
    (hcols : 0 < s.size.cols) {t : Text} (ht : ∀ c ∈ t, charWidth c ≤ 2)
    (hfit : row.size + t.width ≤ s.size.cols) :
    (s.typedOn r row).putAll t = s.typedOn r (t.foldl Row.typeOn row) := by
  induction t generalizing row with
  | nil => rfl
  | cons c t ih =>
    have hc := ht c (by simp)
    rw [Text.width_cons] at hfit
    rw [putAll, List.foldl_cons, put_typedOn hr hwrap hcols hc (by omega), ← putAll,
      ih _ (fun c hc => ht c (by simp [hc])) (by rw [Row.size_typeOn row hc]; omega), List.foldl_cons]

/-! ### Rows one after the other -/

/-- The screen after rows that were filled one after the other: as many of the last of them as fit
stand on it, the others above it, and nothing but the cursor was set. -/
structure Shows (s : Screen) (z : Size) (rows : List Row) (cursor : Cursor) : Prop where
  size : s.size = z
  above : s.scrollback.toList = rows.take (rows.length - z.rows)
  lines : s.lines.toList = rows.drop (rows.length - z.rows) ++
    List.replicate (z.rows - rows.length) (Row.blank z.cols)
  cursor : s.cursor = cursor
  savedCursor : s.savedCursor = none
  modes : s.modes = {}
  margins : s.margins = fullMargins z

/-- The row of the grid on which the last of the rows stands. -/
def lastRow (z : Size) (rows : List Row) : Nat := min (rows.length - 1) (z.rows - 1)

variable {z : Size} {rows : List Row} {cursor : Cursor}

theorem Shows.size_lines (h : s.Shows z rows cursor) : s.lines.size = z.rows := by
  rw [← Array.length_toList, h.lines]
  simp
  omega

theorem shows_blank (hz : 0 < z.rows) (hc : 0 < z.cols) :
    (blank z).Shows z [Row.blank z.cols] {} := by
  have hsize := Size.atLeastOne_eq hz hc
  have habove : 1 - z.rows = 0 := by omega
  refine ⟨hsize, ?_, ?_, rfl, rfl, rfl, by simp [blank, hsize]⟩
  · simp [blank, habove]
  · obtain ⟨n, hn⟩ := Nat.exists_eq_add_of_lt hz
    simp [blank, blankLines, hsize, hn, List.replicate_succ]

theorem getElem?_lastRow {row : Row} (h : s.Shows z (rows ++ [row]) cursor) (hz : 0 < z.rows) :
    s.lines[lastRow z (rows ++ [row])]? = some row := by
  have hindex : (rows ++ [row]).length - z.rows + lastRow z (rows ++ [row]) = rows.length := by
    simp only [lastRow, List.length_append, List.length_singleton]
    omega
  rw [← Array.getElem?_toList, h.lines, List.getElem?_append_left, List.getElem?_drop, hindex]
  · simp
  · rw [List.length_drop]
    simp only [List.length_append, List.length_singleton] at hindex ⊢
    omega

/-- Typing on the last row, which is blank. -/
theorem Shows.type (h : s.Shows z (rows ++ [Row.blank z.cols])
      ⟨lastRow z (rows ++ [Row.blank z.cols]), 0, false⟩)
    (hz : 0 < z.rows) (hc : 0 < z.cols) {t : Text} (ht : ∀ c ∈ t, charWidth c ≤ 2)
    (hfit : t.width ≤ z.cols) :
    (s.putAll t).Shows z (rows ++ [Row.lay z.cols t])
      ⟨lastRow z (rows ++ [Row.lay z.cols t]), min t.width (z.cols - 1),
        decide (t.width = z.cols)⟩ := by
  have hcols : s.size.cols = z.cols := by rw [h.size]
  have hrow := getElem?_lastRow h hz
  have hempty := typedOn_empty (s := s) (by rw [hrow, hcols]) h.cursor (by omega)
  have hput := putAll_typedOn (s := s) #[] (Array.getElem?_eq_some_iff.1 hrow).1
    (by rw [h.modes]) (by omega) ht (by simpa [hcols] using hfit)
  have hsize := Row.size_typed ht
  rw [hempty, ← Row.typed] at hput
  rw [hput]
  have hle : rows.length + 1 - z.rows ≤ rows.length := by omega
  refine ⟨h.size, ?_, ?_, ?_, h.savedCursor, h.modes, h.margins⟩
  · have habove := h.above
    simp only [List.length_append, List.length_singleton] at habove ⊢
    rw [List.take_append_of_le_length hle] at habove ⊢
    exact habove
  · have hlines := h.lines
    simp only [List.length_append, List.length_singleton] at hlines ⊢
    rw [List.drop_append_of_le_length hle] at hlines ⊢
    have hlast : lastRow z (rows ++ [Row.blank z.cols]) =
        (rows.drop (rows.length + 1 - z.rows)).length := by
      simp [lastRow]
      omega
    rw [typedOn, Array.toList_setIfInBounds, hlines, hlast, hcols, List.append_assoc,
      List.set_append_right _ _ (Nat.le_refl _), Nat.sub_self]
    simp [Row.lay]
  · simp [typedOn, hsize, hcols, lastRow]

/-! ### New lines -/

theorem toList_delete_first {α : Type} (xs : Array α) (x : α) (h : 0 < xs.size) :
    (Span.delete xs 0 xs.size 1 x).toList = xs.toList.drop 1 ++ [x] := by
  apply List.ext_getElem?
  intro i
  rw [Array.getElem?_toList, Span.getElem?_delete _ _ _ _ (Nat.zero_le _) (Nat.le_refl _),
    List.getElem?_append, List.length_drop, Array.length_toList, List.getElem?_drop,
    Array.getElem?_toList, Nat.add_comm 1 i]
  by_cases h₁ : i + 1 < xs.size
  · rw [if_pos (by omega), if_pos h₁, if_pos (by omega)]
  · by_cases h₂ : i < xs.size
    · rw [if_pos (by omega), if_neg h₁, if_neg (by omega)]
      simp [show i - (xs.size - 1) = 0 by omega]
    · rw [if_neg (by omega), if_neg (by omega)]
      simp [show i - (xs.size - 1) ≠ 0 by omega]
      omega

theorem scrollUp_one (hs : 0 < s.lines.size) (hm : s.margins = ⟨0, s.lines.size - 1⟩) :
    s.scrollUp 1 = { s with
      scrollback := s.scrollback.pushAll (s.lines.toList.take 1)
      lines := Span.delete s.lines 0 s.lines.size 1 s.blankRow } := by
  have hlast : s.lines.size - 1 + 1 = s.lines.size := by omega
  have hone : 1 - s.lines.size = 0 := by omega
  have hmin : min 1 s.lines.size = 1 := by omega
  simp [scrollUp, deleteAt, leaving, hm, hlast, hone, hmin, blankRow]

theorem carriageReturn_lineFeed (hm : s.margins = ⟨0, z.rows - 1⟩) (hs : s.size = z) :
    s.carriageReturn.lineFeed =
      if s.cursor.row = z.rows - 1 then
        ({ s with cursor := ⟨s.cursor.row, 0, false⟩ } : Screen).scrollUp 1
      else if s.cursor.row + 1 < z.rows then { s with cursor := ⟨s.cursor.row + 1, 0, false⟩ }
      else { s with cursor := ⟨s.cursor.row, 0, false⟩ } := by
  subst hs
  simp only [carriageReturn, lineFeed, cancelWrap, hm]

/-- On a full grid a new line makes the first row leave it. -/
theorem Shows.newLine_full (h : s.Shows z rows cursor) (hcursor : cursor.row = z.rows - 1)
    (hz : 0 < z.rows) (hfull : z.rows ≤ rows.length)
    (hlimit : rows.length - z.rows < Scrollback.limit) :
    s.carriageReturn.lineFeed.Shows z (rows ++ [Row.blank z.cols])
      ⟨lastRow z (rows ++ [Row.blank z.cols]), 0, false⟩ := by
  have hsize := h.size_lines
  have hdrop : rows.drop (rows.length - z.rows) =
      rows[rows.length - z.rows] :: rows.drop (rows.length + 1 - z.rows) := by
    rw [List.drop_eq_getElem_cons (by omega), Nat.sub_add_comm hfull]
  have hlines : s.lines.toList = rows.drop (rows.length - z.rows) := by
    rw [h.lines, Nat.sub_eq_zero_of_le hfull, List.replicate_zero, List.append_nil]
  have hcount : s.scrollback.size = rows.length - z.rows := by
    rw [← Scrollback.length_toList, h.above, List.length_take]
    omega
  have htake : rows.take (rows.length + 1 - z.rows) =
      rows.take (rows.length - z.rows) ++ [rows[rows.length - z.rows]] := by
    rw [Nat.sub_add_comm hfull, List.take_succ_eq_append_getElem (by omega)]
  have hblank : s.blankRow = Row.blank z.cols := by rw [blankRow, h.size]
  rw [carriageReturn_lineFeed h.margins h.size, h.cursor, hcursor, if_pos rfl,
    scrollUp_one (by simpa [hsize] using hz) (by simp [h.margins, hsize, fullMargins])]
  refine ⟨h.size, ?_, ?_, ?_, h.savedCursor, h.modes, h.margins⟩
  · rw [List.length_append, List.length_singleton, List.take_append_of_le_length (by omega),
      htake, ← h.above]
    simp [hlines, hdrop, Scrollback.pushAll, Scrollback.toList_push, hcount, hlimit]
  · refine (toList_delete_first _ _ (by simpa [hsize] using hz)).trans ?_
    rw [List.length_append, List.length_singleton, List.drop_append_of_le_length (by omega),
      Nat.sub_eq_zero_of_le (show z.rows ≤ rows.length + 1 by omega), List.replicate_zero,
      List.append_nil]
    simp only [hlines, hdrop, List.drop_succ_cons, List.drop_zero]
    exact congrArg (rows.drop (rows.length + 1 - z.rows) ++ [·]) hblank
  · rw [Cursor.mk.injEq]
    refine ⟨?_, rfl, rfl⟩
    simp only [lastRow, List.length_append, List.length_singleton]
    omega

/-- On a grid with blank rows left a new line moves to the first of them. -/
theorem Shows.newLine_below (h : s.Shows z rows cursor) (hcursor : cursor.row = rows.length - 1)
    (hrows : rows ≠ []) (hless : rows.length < z.rows) :
    s.carriageReturn.lineFeed.Shows z (rows ++ [Row.blank z.cols])
      ⟨lastRow z (rows ++ [Row.blank z.cols]), 0, false⟩ := by
  have hlength : 0 < rows.length := List.length_pos_iff.2 hrows
  have hzero : rows.length - z.rows = 0 := by omega
  have hzero' : rows.length + 1 - z.rows = 0 := by omega
  rw [carriageReturn_lineFeed h.margins h.size, h.cursor, hcursor, if_neg (by omega),
    if_pos (by omega)]
  refine ⟨h.size, ?_, ?_, ?_, h.savedCursor, h.modes, h.margins⟩
  · simpa [hzero, hzero'] using h.above
  · have hsucc : z.rows - rows.length = z.rows - (rows.length + 1) + 1 := by omega
    have hlines := h.lines
    rw [hsucc, List.replicate_succ] at hlines
    simpa [hzero, hzero'] using hlines
  · rw [Cursor.mk.injEq]
    refine ⟨?_, rfl, rfl⟩
    simp only [lastRow, List.length_append, List.length_singleton]
    omega

/-- A new line begins a blank row. -/
theorem Shows.newLine (h : s.Shows z rows cursor) (hcursor : cursor.row = lastRow z rows)
    (hz : 0 < z.rows) (hrows : rows ≠ []) (hlimit : rows.length - z.rows < Scrollback.limit) :
    s.carriageReturn.lineFeed.Shows z (rows ++ [Row.blank z.cols])
      ⟨lastRow z (rows ++ [Row.blank z.cols]), 0, false⟩ := by
  rw [lastRow] at hcursor
  by_cases hfull : z.rows ≤ rows.length
  · exact h.newLine_full (by omega) hz hfull hlimit
  · exact h.newLine_below (by omega) hrows (by omega)

end Screen

namespace Surface

open Screen

/-- Lines that fit, joined by new lines, fill rows one after the other. -/
theorem write_lines (rows : List Row) {s : Screen} {z : Size} (hz : 0 < z.rows) (hc : 0 < z.cols)
    (h : s.Shows z (rows ++ [Row.blank z.cols])
      ⟨lastRow z (rows ++ [Row.blank z.cols]), 0, false⟩)
    (line : Text) (lines : List Text) (hplain : ∀ l ∈ line :: lines, l.IsPlain)
    (hwidth : ∀ l ∈ line :: lines, ∀ c ∈ l, charWidth c ≤ 2)
    (hfit : ∀ l ∈ line :: lines, l.width ≤ z.cols)
    (hlimit : rows.length + lines.length + 1 ≤ z.rows + Scrollback.limit) :
    ∃ s', write ⟨s, .idle⟩ (Utf8.encode (['\r', '\n'].intercalate (line :: lines))) =
        (⟨s', .idle⟩, []) ∧
      s'.Shows z (rows ++ (line :: lines).map (Row.lay z.cols))
        ⟨lastRow z (rows ++ (line :: lines).map (Row.lay z.cols)),
          min ((line :: lines).getLast (by simp)).width (z.cols - 1),
          decide (((line :: lines).getLast (by simp)).width = z.cols)⟩ := by
  induction lines generalizing s rows line with
  | nil =>
    rw [List.intercalate_singleton, write_encode s (hplain line (by simp))]
    exact ⟨_, rfl, h.type hz hc (hwidth line (by simp)) (hfit line (by simp))⟩
  | cons next lines ih =>
    simp only [List.forall_mem_cons (a := line)] at hplain hwidth hfit
    rw [List.length_cons] at hlimit
    have hlength : (rows ++ [Row.lay z.cols line]).length = rows.length + 1 := by simp
    have hpos : 0 < Scrollback.limit := by decide
    have hrows : rows ++ [Row.lay z.cols line] ++ (next :: lines).map (Row.lay z.cols) =
        rows ++ (line :: next :: lines).map (Row.lay z.cols) := by simp
    have htyped := h.type hz hc hwidth.1 hfit.1
    have hnew := htyped.newLine rfl hz (by simp) (by omega)
    obtain ⟨s', hs', hshows⟩ := ih _ hnew next hplain.2 hwidth.2 hfit.2 (by omega)
    rw [hrows] at hshows
    refine ⟨s', ?_, hshows⟩
    rw [List.intercalate_cons_cons, Utf8.encode_append, Utf8.encode_append, List.append_assoc,
      write_append, write_encode s hplain.1, write_append,
      write_newLine _ (by rw [htyped.modes]), hs']
    rfl

end Surface

end TermSession
