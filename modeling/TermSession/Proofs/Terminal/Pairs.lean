import TermSession.Proofs.Terminal.Sound

/-!
# Wide characters in a row

In a paired row every wide character has both of its halves, unless its right half would stand
beyond the last column.  Editing a row may cut a wide character in two; here is said, for each way
to edit, exactly when it does.  All of it depends on the widths of the cells alone.

* `Row.widthAt`: the widths of the cells; `widthAt_write`, `widthAt_erase`, `widthAt_fit` and their
  like: what editing does to them;
* `Row.Paired`: every half has its other half; `paired_iff`: the same by widths;
* `Row.paired_write_iff`, `Row.paired_erase_iff`, `Row.paired_insertBlanks_iff`,
  `Row.paired_deleteCells_iff`, `Row.paired_fit_iff`: what keeps a row paired.
-/

namespace TermSession.Row

/-! ### Widths -/

/-- The width of the cell at a column; where there is no cell it is one, as of a blank. -/
def widthAt (row : Row) (col : Nat) : Nat := row[col]?.elim 1 Cell.width

variable {row : Row}

theorem widthAt_of_le {col : Nat} (h : row.size ≤ col) : row.widthAt col = 1 := by
  rw [widthAt, Array.getElem?_eq_none h]
  rfl

theorem lt_size_of_widthAt {col : Nat} (h : row.widthAt col ≠ 1) : col < row.size := by
  by_contra hge
  exact h (widthAt_of_le (Nat.not_lt.1 hge))

theorem widthAt_eq_iff {col n : Nat} (hn : n ≠ 1) :
    row.widthAt col = n ↔ ∃ cell, row[col]? = some cell ∧ cell.width = n := by
  unfold widthAt
  cases row[col]? with
  | none => simpa using Ne.symm hn
  | some cell => simp

@[simp] theorem widthAt_blank (cols col : Nat) : (blank cols).widthAt col = 1 := by
  unfold widthAt blank
  rw [Array.getElem?_replicate]
  split <;> rfl

theorem widthAt_setIfInBounds (row : Row) (i : Nat) (cell : Cell) (col : Nat) :
    widthAt (row.setIfInBounds i cell) col =
      if i = col ∧ col < row.size then cell.width else row.widthAt col := by
  unfold widthAt
  rw [Array.getElem?_setIfInBounds]
  by_cases hi : i = col
  · subst hi
    by_cases hlt : i < row.size
    · simp [hlt]
    · simp [hlt]
  · simp [hi]

theorem any_width_eq_iff (row : Row) (col : Nat) :
    row[col]?.any (·.width == 2) = true ↔ row.widthAt col = 2 := by
  unfold widthAt
  cases row[col]? <;> simp

theorem any_isContinuation_iff (row : Row) (col : Nat) :
    row[col]?.any Cell.isContinuation = true ↔ row.widthAt col = 0 := by
  unfold widthAt
  cases row[col]? <;> simp [Cell.isContinuation]

/-- Splitting at a column blanks the cell before it or the one behind it. -/
theorem widthAt_split (row : Row) (col j : Nat) :
    (row.split col).widthAt j =
      if j + 1 = col ∧ row.widthAt col = 0 ∨ j = col + 1 ∧ row.widthAt col = 2 then 1
      else row.widthAt j := by
  have hblank : Cell.blank.width = 1 := rfl
  have hleft (k : Nat) : widthAt (if 0 < col && row[col]?.any Cell.isContinuation then
      row.setIfInBounds (col - 1) .blank else row) k =
        if k + 1 = col ∧ row.widthAt col = 0 then 1 else row.widthAt k := by
    rw [apply_ite (widthAt · k), widthAt_setIfInBounds]
    simp only [Bool.and_eq_true, decide_eq_true_eq, any_isContinuation_iff, hblank]
    have := @widthAt_of_le row k
    grind
  unfold split
  dsimp only
  generalize (if 0 < col && row[col]?.any Cell.isContinuation then
    row.setIfInBounds (col - 1) .blank else row) = left at hleft ⊢
  rw [apply_ite (widthAt · j), widthAt_setIfInBounds]
  simp only [any_width_eq_iff, hleft, hblank]
  have := @widthAt_of_le left j
  grind

/-- Writing splits what stood at the column, and takes a second column for a wide character. -/
theorem widthAt_write (row : Row) (col : Nat) (c : Char) (width : Nat) {j : Nat}
    (hj : j < row.size) :
    (row.write col c width).widthAt j =
      if j = col then width
      else if j = col + 1 ∧ width = 2 then 0
      else (row.split col).widthAt j := by
  have hcell : widthAt ((row.split col).setIfInBounds col ⟨[c], width⟩) j =
      if j = col then width else (row.split col).widthAt j := by
    rw [widthAt_setIfInBounds, size_split]
    grind
  have hcont : Cell.continuation.width = 0 := rfl
  unfold write
  dsimp only
  rw [apply_ite (widthAt · j), widthAt_setIfInBounds, hcell, hcont, Array.size_setIfInBounds,
    size_split]
  grind

theorem widthAt_attach (row : Row) (c : Char) (n j : Nat) :
    (row.attach c n).widthAt j = row.widthAt j := by
  have hwidths := congrArg (·[j]?) (map_width_attach row c n)
  simp only [List.getElem?_map, Array.getElem?_toList] at hwidths
  unfold widthAt
  revert hwidths
  cases (row.attach c n)[j]? <;> cases row[j]? <;> simp

theorem widthAt_erase (row : Row) (col n j : Nat) :
    (row.erase col n).widthAt j = if col ≤ j ∧ j < col + n then 1 else row.widthAt j := by
  have hlt := @widthAt_of_le row j
  unfold widthAt at hlt ⊢
  rw [erase, Span.getElem?_fill]
  split
  · rw [if_pos (by omega)]
    rfl
  · split
    · exact hlt (by omega)
    · rfl

theorem widthAt_insertBlanks (row : Row) (col n j : Nat) :
    (row.insertBlanks col n).widthAt j =
      if col ≤ j ∧ j < row.size then if j < col + n then 1 else row.widthAt (j - n)
      else row.widthAt j := by
  by_cases h : col ≤ row.size
  · unfold widthAt
    rw [insertBlanks, Span.getElem?_insert row n _ j h (Nat.le_refl _)]
    repeat' split
    all_goals rfl
  · have hsame : row.insertBlanks col n = row := by
      simp [insertBlanks, Span.insert, Nat.sub_eq_zero_of_le (Nat.le_of_not_le h), Span.fill,
        Span.pushBack]
    rw [hsame, if_neg (by omega)]

theorem widthAt_deleteCells (row : Row) (col n j : Nat) :
    (row.deleteCells col n).widthAt j =
      if col ≤ j then row.widthAt (j + n) else row.widthAt j := by
  by_cases h : col ≤ row.size
  · have hge := @widthAt_of_le row
    unfold widthAt at hge ⊢
    rw [deleteCells, Span.getElem?_delete row n _ j h (Nat.le_refl _)]
    by_cases hj : col ≤ j
    · by_cases hlt : j < row.size
      · rw [if_pos ⟨hj, hlt⟩, if_pos hj]
        split
        · rfl
        · exact (hge (by omega)).symm
      · rw [if_neg (by omega), if_pos hj, hge (by omega), hge (by omega)]
    · rw [if_neg (by omega), if_neg hj]
  · have hsame : row.deleteCells col n = row := by
      simp [deleteCells, Span.delete, Nat.sub_eq_zero_of_le (Nat.le_of_not_le h), Span.fill,
        Span.pullForward]
    rw [hsame]
    split
    · rw [widthAt_of_le (by omega), widthAt_of_le (by omega)]
    · rfl

theorem size_take_append_blank (row : Row) (cols : Nat) :
    (row.take cols ++ blank (cols - row.size)).size = cols := by
  simp
  omega

/-- Cutting or padding a row leaves the widths of the cells before its new end. -/
theorem widthAt_take_append_blank (row : Row) {cols k : Nat} (hk : k < cols) :
    widthAt (row.take cols ++ blank (cols - row.size)) k = row.widthAt k := by
  by_cases hlt : k < row.size
  · unfold widthAt
    rw [Array.getElem?_append_left (by simp; omega), Array.take_eq_extract,
      Array.getElem?_extract, if_pos (by omega), Nat.zero_add]
  · have hblank := widthAt_blank (cols - row.size) (k - (row.take cols).size)
    unfold widthAt at hblank
    rw [widthAt_of_le (Nat.not_lt.1 hlt), widthAt,
      Array.getElem?_append_right (by simp; omega), hblank]

/-- Cutting a wide character at the new end blanks what is left of it. -/
theorem widthAt_fit (row : Row) {cols j : Nat} (hj : j < cols) :
    (row.fit cols).widthAt j = if j + 1 = cols ∧ row.widthAt j = 2 then 1 else row.widthAt j := by
  have hcut (k : Nat) (hk : k < cols) := row.widthAt_take_append_blank hk
  unfold fit mendEnd
  rw [apply_ite (widthAt · j), widthAt_setIfInBounds, Array.back?_eq_getElem?,
    size_take_append_blank, hcut j hj]
  simp only [any_width_eq_iff, hcut (cols - 1) (by omega)]
  have hblank : Cell.blank.width = 1 := rfl
  grind

@[simp] theorem size_insertBlanks (row : Row) (col n : Nat) :
    (row.insertBlanks col n).size = row.size :=
  Span.size_insert ..

@[simp] theorem size_deleteCells (row : Row) (col n : Nat) :
    (row.deleteCells col n).size = row.size :=
  Span.size_delete ..

/-! ### Pairs -/

/-- Every right half of a wide character stands behind its left half, and every left half before
its right half, unless it stands in the last column. -/
structure Paired (row : Row) : Prop where
  opened : ∀ j cell, row[j]? = some cell → cell.isContinuation = true →
    ∃ i left, j = i + 1 ∧ row[i]? = some left ∧ left.width = 2
  closed : ∀ i cell, row[i]? = some cell → cell.width = 2 → i + 1 < row.size →
    ∃ right, row[i + 1]? = some right ∧ right.isContinuation = true

/-- In a paired row a left half ends at a column exactly where a right half starts. -/
theorem paired_iff : row.Paired ↔
    ∀ k < row.size, (0 < k ∧ row.widthAt (k - 1) = 2 ↔ row.widthAt k = 0) := by
  have hright (j : Nat) : row.widthAt j = 0 ↔
      ∃ cell, row[j]? = some cell ∧ cell.isContinuation = true := by
    simp [widthAt_eq_iff, Cell.isContinuation]
  have hleft (j : Nat) : row.widthAt j = 2 ↔ ∃ cell, row[j]? = some cell ∧ cell.width = 2 :=
    widthAt_eq_iff (by decide)
  constructor
  · intro h k hk
    rw [hleft, hright]
    constructor
    · rintro ⟨hpos, cell, hcell, hwide⟩
      obtain ⟨right, hget, hcont⟩ := h.closed (k - 1) cell hcell hwide (by omega)
      rw [Nat.sub_add_cancel hpos] at hget
      exact ⟨right, hget, hcont⟩
    · rintro ⟨cell, hcell, hcont⟩
      obtain ⟨i, left, rfl, hget, hwide⟩ := h.opened k cell hcell hcont
      exact ⟨Nat.succ_pos i, left, hget, hwide⟩
  · intro h
    constructor
    · intro k cell hcell hcont
      have h₀ := (hright k).2 ⟨cell, hcell, hcont⟩
      obtain ⟨hpos, h₂⟩ := (h k (lt_size_of_widthAt (by omega))).2 h₀
      obtain ⟨left, hget, hwide⟩ := (hleft (k - 1)).1 h₂
      exact ⟨k - 1, left, by omega, hget, hwide⟩
    · intro i cell hcell hwide hlt
      have h₂ := (hleft i).2 ⟨cell, hcell, hwide⟩
      exact (hright (i + 1)).1 ((h (i + 1) hlt).1 ⟨Nat.succ_pos i, h₂⟩)

instance (row : Row) : Decidable row.Paired := decidable_of_iff _ paired_iff.symm

theorem paired_blank (cols : Nat) : (blank cols).Paired := by
  rw [paired_iff]
  simp

theorem Paired.widthAt_zero (h : row.Paired) : row.widthAt 0 ≠ 0 := by
  intro h₀
  have hlt := lt_size_of_widthAt (by omega : row.widthAt 0 ≠ 1)
  exact absurd ((paired_iff.1 h 0 hlt).2 h₀).1 (Nat.lt_irrefl 0)

theorem paired_of_size_eq_zero (h : row.size = 0) : row.Paired := by
  rw [paired_iff]
  omega

/-! ### What keeps a row paired -/

theorem paired_attach_iff (c : Char) (n : Nat) : (row.attach c n).Paired ↔ row.Paired := by
  simp only [paired_iff, widthAt_attach, size_attach]

/-- Writing a wide character tears the pair that starts in its second column; writing any other
tears none. -/
theorem paired_write_iff (h : row.Paired) (col : Nat) (c : Char) {width : Nat} (hw : width ≠ 0) :
    (row.write col c width).Paired ↔ ¬ (width = 2 ∧ row.widthAt (col + 2) = 0) := by
  rw [paired_iff] at h ⊢
  rw [size_write]
  constructor
  · rintro hkept ⟨rfl, h₀⟩
    have hlt := lt_size_of_widthAt (by omega : row.widthAt (col + 2) ≠ 1)
    have hpair := hkept (col + 2) hlt
    rw [widthAt_write _ _ _ _ hlt, widthAt_write _ _ _ _ (by omega), widthAt_split,
      widthAt_split] at hpair
    have hnext := h (col + 1) (by omega)
    clear h hkept
    grind
  · -- Splitting at `col` mends both edges of a narrow character, and the left one of a wide one.
    intro hkept k hk
    rw [widthAt_write _ _ _ _ hk, widthAt_write _ _ _ _ (by omega), widthAt_split, widthAt_split]
    have hedge := h k hk
    have hstart := h col
    have hbehind := h (col + 1)
    have hlt := @lt_size_of_widthAt row col
    clear h
    grind

/-- Blanking cells tears the pairs across the two ends of what is blanked. -/
theorem paired_erase_iff (h : row.Paired) (col : Nat) {n : Nat} (hn : 0 < n) :
    (row.erase col n).Paired ↔ row.widthAt col ≠ 0 ∧ row.widthAt (col + n) ≠ 0 := by
  simp only [paired_iff, widthAt_erase, size_erase] at h ⊢
  constructor
  · intro hkept
    have hstart := h col
    have hstart' := hkept col
    have hstop := hkept (col + n)
    have hlt := @lt_size_of_widthAt row col
    have hlt' := @lt_size_of_widthAt row (col + n)
    clear h hkept
    grind
  · intro hends k hk
    have hedge := h k hk
    clear h
    grind

/-- Inserting blanks tears the pair across the place where they come in. -/
theorem paired_insertBlanks_iff (h : row.Paired) (col : Nat) {n : Nat} (hn : 0 < n) :
    (row.insertBlanks col n).Paired ↔ row.widthAt col ≠ 0 := by
  simp only [paired_iff, widthAt_insertBlanks, size_insertBlanks] at h ⊢
  constructor
  · intro hkept
    have hstart := h col
    have hstart' := hkept col
    have hlt := @lt_size_of_widthAt row col
    clear h hkept
    grind
  · intro hstart k hk
    have hedge := h k hk
    have hedge' := h (k - n) (by omega)
    clear h
    grind

/-- Deleting cells tears a pair across one end of what is deleted, unless pairs across both ends
make one, and brings the blanks behind a left half in the last column. -/
theorem paired_deleteCells_iff (h : row.Paired) (col : Nat) {n : Nat} (hn : 0 < n) :
    (row.deleteCells col n).Paired ↔ (row.widthAt col = 0 ↔ row.widthAt (col + n) = 0) ∧
      ¬ (col + n < row.size ∧ row.widthAt (row.size - 1) = 2) := by
  have hlt := @lt_size_of_widthAt row
  have hge := @widthAt_of_le row
  simp only [paired_iff, widthAt_deleteCells, size_deleteCells] at h ⊢
  constructor
  · intro hkept
    have hstart := h col
    have hstop := h (col + n)
    have hstart' := hkept col
    have hend := hkept (row.size - n)
    have hlt₁ := @hlt col
    have hlt₂ := @hlt (col + n)
    have hge₁ := @hge row.size
    clear h hkept hlt hge
    grind
  · intro hends k hk
    have hedge := h k hk
    have hedge' := h (k + n)
    have hend := @hge (k + n)
    have hend' := @hge (k - 1 + n)
    clear h hlt hge
    -- Nothing changes before `col`, two edges meet there, and those behind it move along.
    rcases Nat.lt_trichotomy k col with hk | rfl | hk
    · grind
    · grind
    · grind

/-- Padding a row brings the blanks behind a left half in the last column; cutting it is mended. -/
theorem paired_fit_iff (h : row.Paired) (cols : Nat) :
    (row.fit cols).Paired ↔ ¬ (row.size < cols ∧ row.widthAt (row.size - 1) = 2) := by
  rw [paired_iff] at h ⊢
  rw [size_fit]
  constructor
  · rintro hkept ⟨hlt, h₂⟩
    have hlast := lt_size_of_widthAt (by omega : row.widthAt (row.size - 1) ≠ 1)
    have hpair := hkept row.size hlt
    rw [widthAt_fit _ hlt, widthAt_fit _ (by omega), widthAt_of_le (Nat.le_refl row.size)] at hpair
    clear h hkept
    grind
  · intro hkept k hk
    rw [widthAt_fit _ hk, widthAt_fit _ (by omega)]
    have hedge := h k
    have hend := @widthAt_of_le row k
    have hend' := @widthAt_of_le row (k - 1)
    clear h
    grind

end TermSession.Row
