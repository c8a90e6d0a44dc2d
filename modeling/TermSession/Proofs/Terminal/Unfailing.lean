import TermSession.Proofs.Terminal.Checked

/-!
# No check fails

On a sound screen every step of every operation is in range, and the steps together do what the
operation says.

* `Screen.Sound.scrollUp?`, `Screen.Sound.put?`, …: one operation;
* `Screen.Sound.resize?`, `Screen.Sound.clear?`, `Screen.Sound.actAll?`: all that can be done to a
  screen.
-/

namespace TermSession

/-- What stands in front of which lines makes no difference to which rows are moved there. -/
theorem Scrollback.pull_append (sb : Scrollback) (lines : List Row) (n : Nat) :
    sb.pull lines n = ((sb.pull [] n).1 ++ lines, (sb.pull [] n).2) := by
  induction n generalizing sb lines with
  | zero => rfl
  | succ n ih =>
    unfold pull
    split
    · rename_i row rest _
      rw [ih rest (row :: lines), ih rest [row]]
      simp
    · rfl

namespace Screen

theorem fullMargins?_eq {size : Size} (h : 0 < size.rows) :
    fullMargins? size = some (fullMargins size) := by
  rw [fullMargins?, Short.sub?_eq h]
  rfl

theorem blank?_eq (size : Size) : blank? size = some (blank size) := by
  rw [blank?, fullMargins?_eq size.atLeastOne_pos.1]
  rfl

namespace Sound

variable {s : Screen} {z : Size}

/-! ### No check fails: cursor motion -/

theorem lastRow? (h : s.Sound z) : s.lastRow? = some (s.size.rows - 1) := Short.sub?_eq h.rows_pos

theorem lastCol? (h : s.Sound z) : s.lastCol? = some (s.size.cols - 1) := Short.sub?_eq h.cols_pos

theorem tab? (h : s.Sound z) : s.tab? = some s.tab := by
  have hcol := h.col_lt
  have hcols := h.isShort.2
  unfold Screen.tab? Screen.tab
  rw [Short.add?_eq (by omega), h.lastCol?]
  -- No column lies beyond the largest short.
  have hstop : min (min ((s.cursor.col / 8 + 1) * 8) Decimal.maxU16) (s.size.cols - 1) =
      min ((s.cursor.col / 8 + 1) * 8) (s.size.cols - 1) := by omega
  simp only [Option.bind_eq_bind, Option.bind_some, hstop]

theorem cursorDown? (h : s.Sound z) (n : Nat) : s.cursorDown? n = some (s.cursorDown n) := by
  have hrows := h.isShort.1
  have hrow : min (Short.addUpTo s.cursor.row n) (s.size.rows - 1) =
      min (s.cursor.row + n) (s.size.rows - 1) := by
    unfold Short.addUpTo
    omega
  unfold Screen.cursorDown? Screen.cursorDown
  rw [h.lastRow?]
  simp only [Option.bind_eq_bind, Option.bind_some, hrow]

theorem cursorForward? (h : s.Sound z) (n : Nat) : s.cursorForward? n = some (s.cursorForward n) := by
  have hcols := h.isShort.2
  have hcol : min (Short.addUpTo s.cursor.col n) (s.size.cols - 1) =
      min (s.cursor.col + n) (s.size.cols - 1) := by
    unfold Short.addUpTo
    omega
  unfold Screen.cursorForward? Screen.cursorForward
  rw [h.lastCol?]
  simp only [Option.bind_eq_bind, Option.bind_some, hcol]

theorem cursorColumn? (h : s.Sound z) (col : Nat) :
    s.cursorColumn? col = some (s.cursorColumn col) := by
  unfold Screen.cursorColumn?
  rw [h.lastCol?]
  rfl

theorem cursorRow? (h : s.Sound z) (row : Nat) : s.cursorRow? row = some (s.cursorRow row) := by
  unfold Screen.cursorRow?
  rw [h.lastRow?]
  rfl

theorem cursorPosition? (h : s.Sound z) (row col : Nat) :
    s.cursorPosition? row col = some (s.cursorPosition row col) := by
  unfold Screen.cursorPosition?
  rw [h.cursorRow?]
  exact (h.cursorRow row).cursorColumn? col

theorem restoreCursor? (h : s.Sound z) : s.restoreCursor? = some s.restoreCursor := by
  unfold Screen.restoreCursor? Screen.restoreCursor
  cases s.savedCursor with
  | none => rfl
  | some c =>
    dsimp only
    rw [h.lastRow?, h.lastCol?]
    rfl

theorem setMargins? (h : s.Sound z) (top bottom : Nat) :
    s.setMargins? top bottom = some (s.setMargins top bottom) := by
  have hposition := (h.withMargins (top - 1) (h.last_lt bottom)).cursorPosition? 1 1
  unfold Screen.setMargins? Screen.setMargins
  rw [fullMargins?_eq h.rows_pos]
  dsimp only
  generalize (if bottom = 0 then s.size.rows else min bottom s.size.rows) - 1 = last
    at hposition ⊢
  split
  · rw [if_pos ‹_›] at hposition
    exact hposition
  · rw [if_neg ‹_›] at hposition
    exact hposition

/-! ### No check fails: lines -/

theorem span_le (h : s.Sound z) {top : Nat} (ht : top ≤ s.margins.bottom) :
    top ≤ s.margins.bottom + 1 ∧ s.margins.bottom + 1 ≤ s.lines.size := by
  have hbottom := h.bottom_lt
  have hlines := h.size_lines
  omega

theorem insertAt_zero (h : s.Sound z) {top : Nat} (ht : top ≤ s.margins.bottom) :
    s.insertAt top 0 = s := by
  obtain ⟨hfirst, hlast⟩ := h.span_le ht
  exact congrArg (fun lines => ({ s with lines } : Screen))
    (Span.insert_zero s.blankRow hfirst hlast)

theorem deleteAt_zero (h : s.Sound z) {top : Nat} (ht : top ≤ s.margins.bottom) :
    s.deleteAt top 0 = s := by
  obtain ⟨hfirst, hlast⟩ := h.span_le ht
  exact congrArg (fun lines => ({ s with lines } : Screen))
    (Span.delete_zero s.blankRow hfirst hlast)

theorem insertAt_insertAt (h : s.Sound z) {top : Nat} (ht : top ≤ s.margins.bottom) (m n : Nat) :
    (s.insertAt top m).insertAt top n = s.insertAt top (n + m) := by
  obtain ⟨hfirst, hlast⟩ := h.span_le ht
  exact congrArg (fun lines => ({ s with lines } : Screen))
    (Span.insert_insert s.blankRow hfirst hlast m n)

theorem deleteAt_deleteAt (h : s.Sound z) {top : Nat} (ht : top ≤ s.margins.bottom) (m n : Nat) :
    (s.deleteAt top m).deleteAt top n = s.deleteAt top (n + m) := by
  obtain ⟨hfirst, hlast⟩ := h.span_le ht
  exact congrArg (fun lines => ({ s with lines } : Screen))
    (Span.delete_delete s.blankRow hfirst hlast m n)

theorem margins_deleteAt (s : Screen) (top n : Nat) : (s.deleteAt top n).margins = s.margins := rfl

/-- A line leaves the region, and a blank one comes in at the bottom margin. -/
theorem rotate?_bottom (h : s.Sound z) {i : Nat} (hi : i ≤ s.margins.bottom) :
    ∃ hlt : i < s.lines.size, s.rotate? i s.margins.bottom = some (s.lines[i], s.deleteAt i 1) := by
  have hbottom := h.bottom_lt
  have hlines := h.size_lines
  have hlt : i < s.lines.size := by omega
  refine ⟨hlt, ?_⟩
  unfold Screen.rotate?
  rw [Span.removeAt?, dif_pos hlt]
  simp only [Option.bind_eq_bind, Option.bind_some]
  rw [Span.insertAt?_eraseIdx _ hi (by omega)]
  rfl

/-- The line at the bottom margin leaves the region, and a blank one comes in. -/
theorem rotate?_top (h : s.Sound z) {i : Nat} (hi : i ≤ s.margins.bottom) :
    (s.rotate? s.margins.bottom i).map Prod.snd = some (s.insertAt i 1) := by
  have hbottom := h.bottom_lt
  have hlines := h.size_lines
  have hlt : s.margins.bottom < s.lines.size := by omega
  unfold Screen.rotate?
  rw [Span.removeAt?, dif_pos hlt]
  simp only [Option.bind_eq_bind, Option.bind_some]
  rw [Span.insertAt?_eraseIdx_last _ hi hlt]
  rfl

theorem insertAt? (h : s.Sound z) {top : Nat} (ht : top ≤ s.margins.bottom) (n : Nat) :
    s.insertAt? top n = some (s.insertAt top n) := by
  refine repeat?_eq (P := fun _ (s : Screen) => s.Sound z ∧ top ≤ s.margins.bottom)
    (g := fun n (s : Screen) => s.insertAt top n) ?_ ?_ ⟨h, ht⟩
  · rintro s ⟨hs, hts⟩
    exact hs.insertAt_zero hts
  · rintro n s ⟨hs, hts⟩
    exact ⟨s.insertAt top 1, hs.rotate?_top hts, ⟨hs.insertAt top 1, hts⟩,
      hs.insertAt_insertAt hts 1 n⟩

theorem deleteAt? (h : s.Sound z) {top : Nat} (ht : top ≤ s.margins.bottom) (n : Nat) :
    s.deleteAt? top n = some (s.deleteAt top n) := by
  refine repeat?_eq (P := fun _ (s : Screen) => s.Sound z ∧ top ≤ s.margins.bottom)
    (g := fun n (s : Screen) => s.deleteAt top n) ?_ ?_ ⟨h, ht⟩
  · rintro s ⟨hs, hts⟩
    exact hs.deleteAt_zero hts
  · rintro n s ⟨hs, hts⟩
    obtain ⟨_, hrotate⟩ := hs.rotate?_bottom hts
    exact ⟨s.deleteAt top 1, by rw [hrotate]; rfl, ⟨hs.deleteAt top 1, hts⟩,
      hs.deleteAt_deleteAt hts 1 n⟩

theorem scrollDown? (h : s.Sound z) (n : Nat) : s.scrollDown? n = some (s.scrollDown n) :=
  h.insertAt? h.top_le n

theorem linesBelow? (h : s.Sound z) (hin : s.inMargins = true) :
    s.cursor.row ≤ s.margins.bottom ∧
      s.linesBelow? = some (s.margins.bottom + 1 - s.cursor.row) := by
  have hbottom := h.bottom_lt
  have hrows := h.isShort.1
  have hrow : s.cursor.row ≤ s.margins.bottom := by
    unfold inMargins at hin
    simp at hin
    exact hin.2
  refine ⟨hrow, ?_⟩
  unfold Screen.linesBelow?
  rw [Short.sub?_eq hrow]
  simp only [Option.bind_eq_bind, Option.bind_some]
  rw [Short.add?_eq (by omega), Nat.sub_add_comm hrow]

theorem insertLines? (h : s.Sound z) (n : Nat) : s.insertLines? n = some (s.insertLines n) := by
  unfold Screen.insertLines? Screen.insertLines
  split
  · obtain ⟨hrow, hbelow⟩ := h.linesBelow? ‹_›
    have hmin := Span.insert_min s.lines s.blankRow
      (Nat.le_refl (s.margins.bottom + 1 - s.cursor.row)) n
    rw [hbelow]
    simp only [Option.bind_eq_bind, Option.bind_some]
    rw [h.insertAt? hrow]
    exact congrArg (fun lines => some ({ s with lines } : Screen)) hmin
  · rfl

theorem deleteLines? (h : s.Sound z) (n : Nat) : s.deleteLines? n = some (s.deleteLines n) := by
  unfold Screen.deleteLines? Screen.deleteLines
  split
  · obtain ⟨hrow, hbelow⟩ := h.linesBelow? ‹_›
    have hmin := Span.delete_min s.lines s.blankRow
      (Nat.le_refl (s.margins.bottom + 1 - s.cursor.row)) n
    rw [hbelow]
    simp only [Option.bind_eq_bind, Option.bind_some]
    rw [h.deleteAt? hrow]
    exact congrArg (fun lines => some ({ s with lines } : Screen)) hmin
  · rfl

theorem getElem?_leaving (h : s.Sound z) (n k : Nat) :
    (s.leaving n)[k]? =
      if k < n then
        if s.margins.top + k ≤ s.margins.bottom then s.lines[s.margins.top + k]?
        else some s.blankRow
      else none := by
  have htop := h.top_le
  have hbottom := h.bottom_lt
  have hlines := h.size_lines
  unfold leaving
  dsimp only
  rw [Array.getElem?_append, Array.size_extract, Array.getElem?_extract, Array.getElem?_replicate]
  -- Lines of the region leave first, and blank ones after all of them are gone.
  by_cases hk : k < n
  · rw [if_pos hk]
    by_cases hin : s.margins.top + k ≤ s.margins.bottom
    · rw [if_pos hin, if_pos (by omega), if_pos (by omega)]
    · rw [if_neg hin, if_neg (by omega), if_pos (by omega)]
  · rw [if_neg hk]
    by_cases hin : k < min (min (s.margins.top + n) (s.margins.bottom + 1)) s.lines.size -
        s.margins.top
    · omega
    · rw [if_neg hin, if_neg (by omega)]

/-- The rows that leave are the topmost one and those that leave afterwards. -/
theorem leaving_succ (h : s.Sound z) (hlt : s.margins.top < s.lines.size) (n : Nat) :
    (s.leaving (n + 1)).toList =
      s.lines[s.margins.top] :: ((s.deleteAt s.margins.top 1).leaving n).toList := by
  have htop := h.top_le
  have hbottom := h.bottom_lt
  have hlines := h.size_lines
  refine List.ext_getElem? fun k => ?_
  rw [Array.getElem?_toList, h.getElem?_leaving]
  cases k with
  | zero =>
    rw [if_pos (by omega), Nat.add_zero, if_pos htop, Array.getElem?_eq_getElem hlt]
    rfl
  | succ k =>
    have hline := Span.getElem?_delete s.lines 1 s.blankRow (s.margins.top + k)
      (show s.margins.top ≤ s.margins.bottom + 1 by omega) (by omega)
    rw [List.getElem?_cons_succ, Array.getElem?_toList,
      (h.deleteAt s.margins.top 1).getElem?_leaving]
    -- Once a line has left, the next one is topmost.
    change _ = if k < n then
      if s.margins.top + k ≤ s.margins.bottom then
        (Span.delete s.lines s.margins.top (s.margins.bottom + 1) 1 s.blankRow)[s.margins.top + k]?
      else some s.blankRow else none
    rw [hline]
    by_cases hk : k < n
    · rw [if_pos (by omega), if_pos hk]
      by_cases hin : s.margins.top + k ≤ s.margins.bottom
      · have hspan : s.margins.top ≤ s.margins.top + k ∧ s.margins.top + k < s.margins.bottom + 1 := by
          omega
        rw [if_pos hin, if_pos hspan]
        by_cases hnext : s.margins.top + k + 1 ≤ s.margins.bottom
        · rw [if_pos (by omega), if_pos (by omega), Nat.add_assoc]
        · rw [if_neg (by omega), if_neg (by omega)]
      · rw [if_neg hin, if_neg (by omega)]
    · rw [if_neg (by omega), if_neg hk]

theorem scrollUp_eq (n : Nat) :
    s.scrollUp n =
      { s.deleteAt s.margins.top n with
        scrollback :=
          if s.margins.top = 0 then s.scrollback.pushAll (s.leaving n).toList
          else s.scrollback } := by
  unfold Screen.scrollUp
  dsimp only
  split <;> rfl

theorem leaving_zero (h : s.Sound z) : (s.leaving 0).toList = [] := by
  refine List.ext_getElem? fun k => ?_
  rw [Array.getElem?_toList, h.getElem?_leaving]
  rfl

theorem scrollUp_one (h : s.Sound z) (hlt : s.margins.top < s.lines.size) :
    s.scrollUp 1 =
      { s.deleteAt s.margins.top 1 with
        scrollback :=
          if s.margins.top = 0 then s.scrollback.push s.lines[s.margins.top]
          else s.scrollback } := by
  rw [scrollUp_eq, h.leaving_succ hlt, (h.deleteAt s.margins.top 1).leaving_zero]
  rfl

theorem scrollUpOnce? (h : s.Sound z) : s.scrollUpOnce? = some (s.scrollUp 1) := by
  obtain ⟨hlt, hrotate⟩ := h.rotate?_bottom h.top_le
  unfold Screen.scrollUpOnce?
  rw [hrotate, h.scrollUp_one hlt]
  dsimp only [Option.bind_eq_bind, Option.bind_some, Screen.deleteAt]
  by_cases htop : s.margins.top = 0
  · simp only [if_pos htop]
  · simp only [if_neg htop]

theorem scrollUp_scrollUp (h : s.Sound z) (n : Nat) :
    (s.scrollUp 1).scrollUp n = s.scrollUp (n + 1) := by
  obtain ⟨hlt, -⟩ := h.rotate?_bottom h.top_le
  rw [h.scrollUp_one hlt, scrollUp_eq, scrollUp_eq, h.leaving_succ hlt,
    ← h.deleteAt_deleteAt h.top_le 1 n]
  by_cases htop : s.margins.top = 0
  · simp only [margins_deleteAt, if_pos htop]
    rfl
  · simp only [margins_deleteAt, if_neg htop]
    rfl

theorem scrollUp_zero (h : s.Sound z) : s.scrollUp 0 = s := by
  rw [scrollUp_eq, h.deleteAt_zero h.top_le, h.leaving_zero]
  simp [Scrollback.pushAll]

theorem scrollUp? (h : s.Sound z) (n : Nat) : s.scrollUp? n = some (s.scrollUp n) := by
  refine repeat?_eq (P := fun _ (s : Screen) => s.Sound z)
    (g := fun n (s : Screen) => s.scrollUp n) ?_ ?_ h
  · intro s hs
    exact hs.scrollUp_zero
  · intro n s hs
    exact ⟨s.scrollUp 1, hs.scrollUpOnce?, hs.scrollUp 1, hs.scrollUp_scrollUp n⟩

theorem lineFeed? (h : s.Sound z) : s.lineFeed? = some s.lineFeed := by
  have hrow := h.row_lt
  have hrows := h.isShort.1
  unfold Screen.lineFeed? Screen.lineFeed
  dsimp only
  split
  · exact h.cancelWrap.scrollUp? 1
  · rw [h.cancelWrap.lastRow?]
    simp only [Option.bind_eq_bind, Option.bind_some]
    have hiff : s.cancelWrap.cursor.row < s.cancelWrap.size.rows - 1 ↔
        s.cancelWrap.cursor.row + 1 < s.cancelWrap.size.rows := by omega
    simp only [hiff]
    split
    · rw [Short.add?_eq (by simp only [Screen.cancelWrap] at *; omega)]
      rfl
    · rfl

theorem reverseIndex? (h : s.Sound z) : s.reverseIndex? = some s.reverseIndex := by
  unfold Screen.reverseIndex? Screen.reverseIndex
  dsimp only
  split
  · exact h.cancelWrap.scrollDown? 1
  · rfl

/-! ### No check fails: writing and erasing -/

theorem getElem?_row (h : s.Sound z) :
    ∃ row : Row, s.lines[s.cursor.row]? = some row ∧ row.size = s.size.cols := by
  have hrow := h.row_lt
  have hlines := h.size_lines
  refine ⟨s.lines[s.cursor.row], Array.getElem?_eq_getElem (by omega), ?_⟩
  exact h.size_line _ (Array.getElem_mem _)

theorem updateRow? (h : s.Sound z) {f : Row → Option Row} {g : Row → Row}
    (hf : ∀ row : Row, row.size = s.size.cols → f row = some (g row)) :
    s.updateRow? f = some (s.updateRow g) := by
  obtain ⟨row, hrow, hsize⟩ := h.getElem?_row
  have hlt : s.cursor.row < s.lines.size := by
    have := h.row_lt
    have := h.size_lines
    omega
  have hmodify : s.lines.setIfInBounds s.cursor.row (g row) = s.lines.modify s.cursor.row g := by
    refine Array.ext_getElem? fun j => ?_
    rw [Array.getElem?_setIfInBounds, Array.getElem?_modify]
    split
    · rename_i hj
      rw [← hj, hrow]
      simp
    · rfl
  unfold Screen.updateRow? Screen.updateRow
  rw [hrow]
  simp only [Option.bind_eq_bind, Option.bind_some, hf row hsize, Span.set?_eq _ hlt, hmodify]

theorem wrapLine? (h : s.Sound z) : s.wrapLine? = some s.wrapLine := by
  unfold Screen.wrapLine? Screen.wrapLine
  dsimp only
  split
  · obtain ⟨row, hrow, -⟩ := h.getElem?_row
    rw [show s.cancelWrap.lines[s.cancelWrap.cursor.row]? = some row from hrow]
    exact lineFeed? (s := { s.cancelWrap with cursor.col := 0 }) { h with col_lt := h.cols_pos }
  · rfl

theorem attach? (h : s.Sound z) (c : Char) : s.attach? c = some (s.attach c) := by
  have hcol := h.col_lt
  refine h.updateRow? fun row hrow => Row.attach?_eq c ?_
  split <;> omega

theorem overhangs? (h : s.Sound z) (width : Nat) :
    s.overhangs? width = some (s.overhangs width) := by
  have hcol := h.col_lt
  have hcols := h.isShort.2
  unfold Screen.overhangs? Screen.overhangs
  split
  · rename_i hwide
    rw [Short.add?_eq (by omega)]
    simp [hwide.1, hwide.2]
  · rename_i hwide
    simp only [not_and, Nat.not_lt] at hwide
    by_cases hw : width = 2
    · have := hwide hw
      simp [hw, Nat.not_lt.2 this]
    · simp [hw]

theorem advance? (h : s.Sound z) (width : Nat) :
    s.advance? width =
      some (if s.size.cols ≤ s.cursor.col + width then
        { s with cursor.col := s.size.cols - 1, cursor.wrapPending := s.modes.autoWrap }
      else { s with cursor.col := s.cursor.col + width }) := by
  have hcols := h.isShort.2
  unfold Screen.advance? Short.addUpTo
  by_cases hover : s.size.cols ≤ s.cursor.col + width
  · have hcap : s.size.cols ≤ min (s.cursor.col + width) Decimal.maxU16 := by omega
    rw [h.lastCol?]
    simp only [if_pos hover, if_pos hcap, Option.bind_eq_bind, Option.bind_some]
  · have hnext : min (s.cursor.col + width) Decimal.maxU16 = s.cursor.col + width := by omega
    simp only [if_neg hover, hnext]

theorem place? (h : s.Sound z) {c : Char} (hc : Text.IsPlain [c]) (width : Nat)
    (hw : charWidth c ≠ 0) : s.place? c width = some (s.place c width) := by
  have hrow := h.updateRow? (f := fun row => row.write? s.size.cols s.cursor.col c width)
    (g := fun row => row.write s.cursor.col c width) fun row hrow => by
      rw [← hrow]
      exact Row.write?_eq (by rw [hrow]; exact h.col_lt) c width
  have hwritten := h.updateRow (f := fun row => row.write s.cursor.col c width)
    (fun _ => Row.size_write ..) fun _ hrow => hrow.write _ hc hw _
  unfold Screen.place?
  rw [hrow]
  exact hwritten.advance? width

theorem wrapIf (h : s.Sound z) (wraps : Bool) :
    (if wraps then s.wrapLine else s).Sound z := by
  split
  · exact h.wrapLine
  · exact h

theorem wrapIf? (h : s.Sound z) (wraps : Bool) :
    s.wrapIf? wraps = some (if wraps then s.wrapLine else s) := by
  unfold Screen.wrapIf?
  split
  · exact h.wrapLine?
  · rfl

theorem put? (h : s.Sound z) {c : Char} (hc : Text.IsPlain [c]) : s.put? c = some (s.put c) := by
  unfold Screen.put? Screen.put
  dsimp only
  split
  · exact h.attach? c
  · have hpending := h.wrapIf s.cursor.wrapPending
    rw [h.wrapIf?]
    simp only [Option.bind_eq_bind, Option.bind_some]
    generalize (if s.cursor.wrapPending then s.wrapLine else s) = s' at hpending ⊢
    rw [hpending.overhangs?, Option.bind_some, hpending.wrapIf?, Option.bind_some]
    exact (hpending.wrapIf _).place? hc _ ‹_›

theorem insertChars? (h : s.Sound z) (n : Nat) : s.insertChars? n = some (s.insertChars n) :=
  h.updateRow? fun row hrow => by
    rw [← hrow]
    exact Row.insertBlanks?_eq (by rw [hrow]; exact h.col_lt) n

theorem deleteChars? (h : s.Sound z) (n : Nat) : s.deleteChars? n = some (s.deleteChars n) :=
  h.updateRow? fun row hrow => by
    rw [← hrow]
    exact Row.deleteCells?_eq (by rw [hrow]; exact h.col_lt) n

theorem eraseChars? (h : s.Sound z) (n : Nat) : s.eraseChars? n = some (s.eraseChars n) :=
  h.updateRow? fun row hrow => Row.erase?_eq (by rw [hrow]; exact Nat.le_of_lt h.col_lt) n

theorem updateRow_self (s : Screen) : (s.updateRow fun row => row) = s := by
  have hlines : (s.lines.modify s.cursor.row fun row => row) = s.lines := by
    refine Array.ext_getElem? fun j => ?_
    rw [Array.getElem?_modify]
    split <;> simp
  exact congrArg (fun lines => ({ s with lines } : Screen)) hlines

theorem eraseLine? (h : s.Sound z) (part : Nat) : s.eraseLine? part = some (s.eraseLine part) := by
  have hcol := h.col_lt
  unfold Screen.eraseLine? Screen.eraseLine
  match part with
  | 0 =>
    refine h.updateRow? fun row hrow => (Span.fill?_eq _ (by omega) (Nat.le_refl _)).trans ?_
    rw [Row.erase, Nat.min_eq_right (Nat.sub_le _ _)]
  | 1 =>
    refine h.updateRow? fun row hrow => (Span.fill?_eq _ (Nat.zero_le _) (by omega)).trans ?_
    rw [Row.erase, Nat.sub_zero, Nat.sub_zero, Nat.min_eq_left (by omega)]
  | 2 => exact h.updateRow? fun row _ => rfl
  | _ + 3 => exact (h.updateRow? fun row _ => rfl).trans (congrArg some (updateRow_self s))

theorem eraseDisplay? (h : s.Sound z) (part : Nat) :
    s.eraseDisplay? part = some (s.eraseDisplay part) := by
  unfold Screen.eraseDisplay? Screen.eraseDisplay
  dsimp only
  match part with
  | 0 => exact congrArg (Option.map _) (h.eraseLine? 0)
  | 1 => exact congrArg (Option.map _) (h.eraseLine? 1)
  | 2 => rfl
  | 3 => rfl
  | _ + 4 => rfl

theorem clear? (h : s.Sound z) : s.clear? = some s.clear := by
  rw [Screen.clear?, fullMargins?_eq h.rows_pos]
  rfl

/-! ### No check fails: resizing -/

/-- Lines leave at the top one by one. -/
theorem repeat?_dropTop? {n : Nat} (hn : n ≤ s.lines.size) :
    repeat? dropTop? n s =
      some { s with
        lines := s.lines.extract n s.lines.size
        scrollback := s.scrollback.pushAll (s.lines.take n).toList } := by
  refine repeat?_eq (P := fun n (s : Screen) => n ≤ s.lines.size)
    (g := fun n (s : Screen) => { s with
      lines := s.lines.extract n s.lines.size
      scrollback := s.scrollback.pushAll (s.lines.take n).toList }) ?_ ?_ hn
  · intro s _
    simp [Scrollback.pushAll]
  · intro n s hn
    have hpos : 0 < s.lines.size := by omega
    refine ⟨{ s with
      lines := s.lines.eraseIdx 0 hpos
      scrollback := s.scrollback.push s.lines[0] }, ?_, ?_, ?_⟩
    · unfold dropTop?
      rw [Span.removeAt?, dif_pos hpos]
      rfl
    · rw [Array.size_eraseIdx]
      omega
    · dsimp only
      rw [Array.size_eraseIdx, Span.extract_eraseIdx hpos, Span.toList_take_succ hpos]
      rfl

/-- Rows come back from the scrollback one by one. -/
theorem repeat?_pullTop? {n : Nat} (hn : n ≤ s.scrollback.size) :
    repeat? pullTop? n s =
      some { s with
        lines := (s.scrollback.pull [] n).1.toArray ++ s.lines
        scrollback := (s.scrollback.pull [] n).2 } := by
  refine repeat?_eq (P := fun n (s : Screen) => n ≤ s.scrollback.size)
    (g := fun n (s : Screen) => { s with
      lines := (s.scrollback.pull [] n).1.toArray ++ s.lines
      scrollback := (s.scrollback.pull [] n).2 }) ?_ ?_ hn
  · intro s _
    simp [Scrollback.pull]
  · intro n s hn
    cases hpop : s.scrollback.pop? with
    | none =>
      -- There is still a row to pull.
      have hlength := Scrollback.length_toList s.scrollback
      rw [(Scrollback.pop?_eq_none_iff _).1 hpop, List.length_nil] at hlength
      omega
    | some popped =>
      obtain ⟨row, rest⟩ := popped
      have hsize : s.scrollback.size = rest.size + 1 := by
        rw [← Scrollback.length_toList, ← Scrollback.length_toList,
          Scrollback.toList_of_pop? hpop]
        simp
      refine ⟨{ s with lines := #[row] ++ s.lines, scrollback := rest }, ?_, ?_, ?_⟩
      · simp only [pullTop?, hpop, Span.insertAt?_zero, Option.map_some]
      · dsimp only
        omega
      · have hpull := rest.pull_append [row] n
        simp only [Scrollback.pull, hpop, hpull]
        simp

theorem shrinkRows? (h : s.Sound z) {rows : Nat} (hpos : 0 < rows) (hlt : rows < s.size.rows) :
    s.shrinkRows? rows = some (s.shrinkRows rows) := by
  have hrow := h.row_lt
  have hrows := h.isShort.1
  have hlines := h.size_lines
  -- What is left after the top has gone is cut at the bottom.
  have hkept : (s.lines.extract (s.cursor.row + 1 - rows) s.lines.size).take rows =
      s.lines.extract (s.cursor.row + 1 - rows) (s.cursor.row + 1 - rows + rows) := by
    refine Array.ext_getElem? fun j => ?_
    rw [Array.take, Array.getElem?_extract, Array.getElem?_extract, Array.getElem?_extract,
      Array.size_extract, Nat.min_self, Nat.zero_add]
    by_cases hin : j < rows ∧ j < s.lines.size - (s.cursor.row + 1 - rows)
    · rw [if_pos (by omega), if_pos hin.2, if_pos (by omega)]
    · rw [if_neg (by omega), if_neg (by omega)]
  unfold Screen.shrinkRows? Screen.shrinkRows
  rw [Short.add?_eq (by omega)]
  simp only [Option.bind_eq_bind, Option.bind_some]
  rw [repeat?_dropTop? (by omega)]
  simp only [Option.bind_some]
  rw [Short.sub?_eq (by omega)]
  simp only [Option.bind_some, hkept]

theorem growRows? (h : s.Sound z) {rows : Nat} (hlt : s.size.rows < rows)
    (hshort : rows ≤ Decimal.maxU16) : s.growRows? rows = some (s.growRows rows) := by
  have hrow := h.row_lt
  unfold Screen.growRows? Screen.growRows
  rw [Short.sub?_eq (Nat.le_of_lt hlt)]
  simp only [Option.bind_eq_bind, Option.bind_some]
  rw [repeat?_pullTop? (Nat.min_le_right _ _)]
  simp only [Option.bind_some]
  rw [Short.add?_eq (by omega)]
  rfl

theorem growRows_self (h : s.Sound z) : s.growRows s.size.rows = s := by
  have hlines := h.size_lines
  unfold Screen.growRows
  simp [Scrollback.pull, hlines]

theorem resize? (h : s.Sound z) {z' : Size} (hz : z'.IsShort) :
    s.resize? z' = some (s.resize z') := by
  have hpos := z'.atLeastOne_pos
  have hrefit : s.refitRows? z'.atLeastOne.rows =
      some (if z'.atLeastOne.rows < s.size.rows then s.shrinkRows z'.atLeastOne.rows
        else s.growRows z'.atLeastOne.rows) := by
    unfold refitRows?
    -- At the same height one side does nothing and the other grows by nothing.
    rcases Nat.lt_trichotomy z'.atLeastOne.rows s.size.rows with hlt | heq | hgt
    · rw [if_pos hlt, if_pos hlt, h.shrinkRows? hpos.1 hlt]
    · rw [if_neg (by omega), if_neg (by omega), if_neg (by omega), heq, h.growRows_self]
    · rw [if_neg (by omega), if_pos hgt, if_neg (by omega), h.growRows? hgt hz.atLeastOne.1]
  unfold Screen.resize? Screen.resize
  simp only [Option.bind_eq_bind, hrefit, Option.bind_some, Short.sub?_eq hpos.1,
    Short.sub?_eq hpos.2]
  rfl

/-! ### No check fails: actions -/

theorem execute? (h : s.Sound z) (isPrivate : Bool) (final : Char) (params : List Nat) :
    s.execute? isPrivate final params = some (s.execute isPrivate final params) := by
  unfold Screen.execute?
  dsimp only
  cases isPrivate with
  | true => rfl
  | false =>
    simp only [Bool.false_eq_true, if_false]
    split
    · exact h.cursorDown? _
    · exact h.cursorDown? _
    · exact h.cursorForward? _
    · exact h.cursorForward? _
    · exact congrArg (Option.map _) (h.cursorDown? _)
    · exact h.cursorColumn? _
    · exact h.cursorColumn? _
    · exact h.cursorPosition? _ _
    · exact h.cursorPosition? _ _
    · exact h.cursorRow? _
    · exact h.eraseDisplay? _
    · exact h.eraseLine? _
    · exact h.insertLines? _
    · exact h.deleteLines? _
    · exact h.insertChars? _
    · exact h.deleteChars? _
    · exact h.eraseChars? _
    · exact h.scrollUp? _
    · exact h.scrollDown? _
    · exact h.setMargins? _ _
    · exact h.restoreCursor?
    · rfl

theorem lineFeed_modes (s : Screen) : s.lineFeed.modes = s.modes := by
  unfold Screen.lineFeed
  dsimp only
  split
  · rw [scrollUp_eq]
    rfl
  · split <;> rfl

theorem control? (h : s.Sound z) (byte : UInt8) : s.control? byte = some (s.control byte) := by
  unfold Screen.control?
  split
  · rename_i htab
    rw [h.tab?, htab]
    rfl
  · rename_i htab
    split
    · rename_i hfeed
      have hbackspace : byte ≠ 0x08 := by
        rintro rfl
        exact absurd hfeed (by decide)
      rw [h.lineFeed?, Screen.control, if_neg hbackspace, if_neg htab, if_pos hfeed,
        Option.map_some, lineFeed_modes]
    · rfl

theorem escaped? (h : s.Sound z) (byte : UInt8) : s.escaped? byte = some (s.escaped byte) := by
  unfold Screen.escaped?
  split
  · rename_i hc
    rw [h.restoreCursor?, Screen.escaped, hc]
    rfl
  · rename_i hc
    rw [h.lineFeed?, Screen.escaped, hc]
    rfl
  · rename_i hc
    rw [h.carriageReturn.lineFeed?, Screen.escaped, hc]
    rfl
  · rename_i hc
    rw [h.reverseIndex?, Screen.escaped, hc]
    rfl
  · rename_i hc
    rw [blank?_eq, Screen.escaped, hc]
    rfl
  · rfl

theorem act? (h : s.Sound z) {a : ScreenAction} (ha : a.IsPlain) : s.act? a = some (s.act a) := by
  cases a with
  | put c => exact h.put? ha
  | control byte => exact h.control? byte
  | escaped byte => exact h.escaped? byte
  | execute isPrivate final params => exact h.execute? isPrivate final params
  | retitle t => rfl

theorem actAll? (h : s.Sound z) {actions : List ScreenAction} (ha : ∀ a ∈ actions, a.IsPlain) :
    s.actAll? actions = some (s.actAll actions) := by
  induction actions generalizing s with
  | nil => rfl
  | cons a actions ih =>
    have hplain := ha a (by simp)
    unfold Screen.actAll?
    rw [List.foldlM_cons, h.act? hplain]
    exact ih (h.act hplain) fun a' ha' => ha a' (by simp [ha'])

end Sound

end Screen

end TermSession
