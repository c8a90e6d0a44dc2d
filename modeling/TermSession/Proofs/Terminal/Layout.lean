import Mathlib.Data.List.Induction
import TermSession.Terminal.Row

/-!
# Laying a text out

A text that is typed on a blank row, and fits, stands there character by character from the first
column on.

* `Row.typeOn`, `Row.lay`: the cells of a text, and the row they make;
* `Row.text_lay`: the row shows the text, without spaces at its end and without characters at its
  start that have no cell to join;
* `Row.lay_text_lay`: what a laid row shows is laid out as the same row;
* `Row.write_typed`, `Row.attach_append`: writing after what is typed.
-/

namespace TermSession

namespace Text

/-- Removes the characters at the start of a text that take no column. -/
def dropMarks (t : Text) : Text := t.dropWhile (charWidth · = 0)

theorem dropMarks_append_singleton (t : Text) (c : Char) :
    dropMarks (t ++ [c]) =
      if dropMarks t = [] ∧ charWidth c = 0 then [] else dropMarks t ++ [c] := by
  unfold dropMarks
  rw [List.dropWhile_append]
  by_cases ht : t.dropWhile (charWidth · = 0) = []
  · by_cases hc : charWidth c = 0 <;> simp [ht, hc]
  · simp [ht]

/-- A text is its trimmed form and spaces. -/
theorem exists_trimEnd_append (t : Text) : ∃ n, t = t.trimEnd ++ List.replicate n ' ' := by
  refine ⟨(t.reverse.takeWhile (· = ' ')).length, ?_⟩
  have hspaces : t.reverse.takeWhile (· = ' ') =
      List.replicate (t.reverse.takeWhile (· = ' ')).length ' ' := by
    rw [List.eq_replicate_iff]
    exact ⟨rfl, fun c hc => of_decide_eq_true (List.all_eq_true.1 List.all_takeWhile c hc)⟩
  have h := congrArg List.reverse
    (List.takeWhile_append_dropWhile (p := (· = ' ')) (l := t.reverse))
  rw [List.reverse_append, List.reverse_reverse, hspaces, List.reverse_replicate,
    ← trimEnd_eq] at h
  exact h.symm

theorem trimEnd_append_spaces (t : Text) (n : Nat) :
    trimEnd (t ++ List.replicate n ' ') = trimEnd t := by
  rw [trimEnd_eq, trimEnd_eq, List.reverse_append, List.reverse_replicate,
    List.dropWhile_append_of_pos (by simp)]

end Text

namespace Row

/-- All characters of cells, with the spaces at their end. -/
def shown (cells : List Cell) : Text := (cells.filter fun c => !c.isContinuation).flatMap Cell.text

/-- Puts the cells of one more character behind those of a text. -/
def typeOn (row : Row) (c : Char) : Row :=
  match charWidth c with
  | 0 => row.attach c row.size
  | 2 => (row.push ⟨[c], 2⟩).push .continuation
  | width => row.push ⟨[c], width⟩

/-- The cells of a text. -/
def typed (t : Text) : Row := t.foldl typeOn #[]

/-- A row with a text from the first column on. -/
def lay (cols : Nat) (t : Text) : Row := typed t ++ blank (cols - (typed t).size)

/-! ### Cells -/

@[simp] theorem size_attach (row : Row) (c : Char) (n : Nat) : (row.attach c n).size = row.size := by
  induction n with
  | zero => rfl
  | succ n ih =>
    rw [attach]
    split
    · exact ih
    · split
      · exact ih
      · exact Array.size_setIfInBounds

theorem typeOn_zero (row : Row) {c : Char} (h : charWidth c = 0) :
    row.typeOn c = row.attach c row.size := by
  simp [typeOn, h]

theorem typeOn_one (row : Row) {c : Char} (h : charWidth c = 1) :
    row.typeOn c = row.push ⟨[c], 1⟩ := by
  simp [typeOn, h]

theorem typeOn_two (row : Row) {c : Char} (h : charWidth c = 2) :
    row.typeOn c = (row.push ⟨[c], 2⟩).push .continuation := by
  simp [typeOn, h]

theorem size_typeOn (row : Row) {c : Char} (h : charWidth c ≤ 2) :
    (row.typeOn c).size = row.size + charWidth c := by
  rcases (by omega : charWidth c = 0 ∨ charWidth c = 1 ∨ charWidth c = 2) with hc | hc | hc
  · simp [typeOn_zero row hc, hc]
  · simp [typeOn_one row hc, hc]
  · simp [typeOn_two row hc, hc]

theorem size_foldl_typeOn (row : Row) {t : Text} (h : ∀ c ∈ t, charWidth c ≤ 2) :
    (t.foldl typeOn row).size = row.size + t.width := by
  induction t generalizing row with
  | nil => rfl
  | cons c t ih =>
    rw [List.foldl_cons, ih _ fun c hc => h c (by simp [hc]), size_typeOn _ (h c (by simp)),
      Text.width_cons, Nat.add_assoc]

theorem size_typed {t : Text} (h : ∀ c ∈ t, charWidth c ≤ 2) : (typed t).size = t.width := by
  simpa [typed] using size_foldl_typeOn #[] h

theorem typed_append (t u : Text) : typed (t ++ u) = u.foldl typeOn (typed t) := List.foldl_append

theorem typeOn_space (row : Row) : row.typeOn ' ' = row.push .blank :=
  typeOn_one row charWidth_space

theorem foldl_typeOn_spaces (row : Row) (n : Nat) :
    (List.replicate n ' ').foldl typeOn row = row ++ blank n := by
  induction n generalizing row with
  | zero => simp [blank]
  | succ n ih =>
    rw [List.replicate_succ, List.foldl_cons, ih, typeOn_space, blank, blank,
      Nat.add_comm n 1, ← Array.replicate_append_replicate, ← Array.append_assoc]
    simp

/-! ### What is shown -/

theorem text_eq_trimEnd (row : Row) : row.text = Text.trimEnd (shown row.toList) := text_eq row

@[simp] theorem shown_nil : shown [] = [] := rfl

@[simp] theorem shown_append (cells cells' : List Cell) :
    shown (cells ++ cells') = shown cells ++ shown cells' := by
  simp [shown]

theorem shown_singleton {cell : Cell} (h : cell.isContinuation = false) :
    shown [cell] = cell.text := by
  simp [shown, h]

theorem shown_eq_nil {cells : List Cell} (h : ∀ c ∈ cells, c.isContinuation = true) :
    shown cells = [] := by
  have hfilter : cells.filter (fun c => !c.isContinuation) = [] := by
    simpa [List.filter_eq_nil_iff] using h
  rw [shown, hfilter, List.flatMap_nil]

@[simp] theorem shown_blank (n : Nat) : shown (blank n).toList = List.replicate n ' ' := by
  induction n with
  | zero => rfl
  | succ n ih =>
    rw [blank, Array.toList_replicate, List.replicate_succ', shown_append, List.replicate_succ',
      ← ih, blank, Array.toList_replicate]
    rfl

/-- A character joins the last cell that is not the right half of a wide character. -/
theorem shown_attach (row : Row) (c : Char) {n : Nat}
    (hrow : ¬ ∀ cell ∈ row.toList, cell.isContinuation = true)
    (h : ∀ cell ∈ row.toList.drop n, cell.isContinuation = true) :
    shown (row.attach c n).toList = shown row.toList ++ [c] := by
  induction n with
  | zero => exact absurd h hrow
  | succ n ih =>
    rw [attach]
    cases hcell : row[n]? with
    | none =>
      refine ih ?_
      rw [List.drop_eq_nil_of_le (by simpa using hcell)]
      simp
    | some cell =>
      have hn : n < row.toList.length := by
        simpa using (Array.getElem?_eq_some_iff.1 hcell).1
      have hget : row.toList[n] = cell := by
        simpa using (Array.getElem?_eq_some_iff.1 hcell).2
      have hdrop : row.toList.drop n = cell :: row.toList.drop (n + 1) := by
        rw [List.drop_eq_getElem_cons hn, hget]
      cases hcont : cell.isContinuation with
      | true =>
        simp only [hcont, if_true]
        exact ih (by rw [hdrop]; exact List.forall_mem_cons.2 ⟨hcont, h⟩)
      | false =>
        have hjoin : (cell.join c).isContinuation = false := hcont
        have hsplit : shown row.toList =
            shown (row.toList.take n ++ [cell] ++ row.toList.drop (n + 1)) := by
          rw [List.append_assoc, List.singleton_append, ← hdrop, List.take_append_drop]
        simp only [hcont, Bool.false_eq_true, if_false, Array.toList_setIfInBounds]
        rw [List.set_eq_take_append_cons_drop, if_pos hn, ← List.singleton_append,
          ← List.append_assoc, hsplit]
        simp only [shown_append, shown_singleton hcont, shown_singleton hjoin, shown_eq_nil h,
          Cell.text_join, List.append_nil, List.append_assoc]

/-- One more character is shown, unless it takes no column and nothing stands before it. -/
theorem shown_typeOn (row : Row) (c : Char)
    (h : ¬ ((∀ cell ∈ row.toList, cell.isContinuation = true) ∧ charWidth c = 0)) :
    shown (row.typeOn c).toList = shown row.toList ++ [c] := by
  by_cases hc : charWidth c = 0
  · rw [typeOn_zero row hc]
    exact shown_attach row c (fun hrow => h ⟨hrow, hc⟩) (by simp [← Array.length_toList])
  · have hcell : (⟨[c], charWidth c⟩ : Cell).isContinuation = false := by
      simp [Cell.isContinuation, hc]
    unfold typeOn
    split
    · contradiction
    · simp [shown, Cell.isContinuation, Cell.continuation, Cell.text]
    · rw [Array.toList_push, shown_append, shown_singleton hcell]
      rfl

/-- Joining a character leaves every cell as wide as it was. -/
theorem map_width_attach (row : Row) (c : Char) (n : Nat) :
    (row.attach c n).toList.map Cell.width = row.toList.map Cell.width := by
  induction n with
  | zero => rfl
  | succ n ih =>
    rw [attach]
    split
    · exact ih
    · rename_i cell hcell
      split
      · exact ih
      · obtain ⟨hn, hget⟩ := Array.getElem?_eq_some_iff.1 hcell
        have hlen : n < (row.toList.map Cell.width).length := by simpa using hn
        have hw : (cell.join c).width = (row.toList.map Cell.width)[n] := by
          simp [hget, Cell.join]
        rw [Array.toList_setIfInBounds, List.map_set, hw, List.set_getElem_self]

theorem forall_isContinuation_iff (cells : List Cell) :
    (∀ cell ∈ cells, cell.isContinuation = true) ↔ ∀ w ∈ cells.map Cell.width, w = 0 := by
  simp [Cell.isContinuation]

theorem forall_isContinuation_typeOn (row : Row) (c : Char) :
    (∀ cell ∈ (row.typeOn c).toList, cell.isContinuation = true) ↔
      (∀ cell ∈ row.toList, cell.isContinuation = true) ∧ charWidth c = 0 := by
  by_cases hc : charWidth c = 0
  · rw [typeOn_zero row hc, forall_isContinuation_iff, map_width_attach,
      ← forall_isContinuation_iff]
    simp [hc]
  · unfold typeOn
    split
    · contradiction
    · simp only [Array.toList_push, List.forall_mem_append, hc, and_false, iff_false]
      exact fun h => absurd (h.1.2 _ (List.mem_singleton_self _)) (by simp [Cell.isContinuation])
    · simp [Cell.isContinuation, hc]

/-- The cells of a text show all of it but the characters at its start that take no column. -/
theorem shown_typed (t : Text) :
    shown (typed t).toList = t.dropMarks ∧
      ((∀ cell ∈ (typed t).toList, cell.isContinuation = true) ↔ t.dropMarks = []) := by
  induction t using List.reverseRecOn with
  | nil => simp [typed, Text.dropMarks]
  | append_singleton t c ih =>
    have hall := forall_isContinuation_typeOn (typed t) c
    rw [typed_append, List.foldl_cons, List.foldl_nil, Text.dropMarks_append_singleton]
    rw [ih.2] at hall
    by_cases h : Text.dropMarks t = [] ∧ charWidth c = 0
    · rw [if_pos h]
      exact ⟨shown_eq_nil (hall.2 h), iff_of_true (hall.2 h) rfl⟩
    · rw [if_neg h]
      refine ⟨?_, ?_⟩
      · rw [shown_typeOn _ _ (by rwa [ih.2]), ih.1]
      · exact iff_of_false (fun h' => h (hall.1 h')) (by simp)

/-! ### Rows -/

theorem typed_dropMarks (t : Text) : typed t.dropMarks = typed t := by
  induction t with
  | nil => rfl
  | cons c t ih =>
    by_cases hc : charWidth c = 0
    · have hdrop : Text.dropMarks (c :: t) = Text.dropMarks t := by simp [Text.dropMarks, hc]
      have htype : typeOn #[] c = #[] := typeOn_zero _ hc
      rw [hdrop, ih, typed, typed, List.foldl_cons, htype]
    · have hdrop : Text.dropMarks (c :: t) = c :: t := by simp [Text.dropMarks, hc]
      rw [hdrop]

theorem lay_dropMarks (cols : Nat) (t : Text) : lay cols t.dropMarks = lay cols t := by
  rw [lay, lay, typed_dropMarks]

theorem lay_trimEnd {cols : Nat} {t : Text} (h : (typed t).size ≤ cols) :
    lay cols t.trimEnd = lay cols t := by
  obtain ⟨n, hn⟩ := t.exists_trimEnd_append
  have htyped : typed t = typed t.trimEnd ++ blank n := by
    conv => lhs; rw [hn]
    rw [typed_append, foldl_typeOn_spaces]
  have hsize : (typed t).size = (typed t.trimEnd).size + n := by
    rw [htyped]
    simp [blank]
  rw [lay, lay, hsize, htyped, Array.append_assoc]
  congr 1
  simp only [blank, Array.replicate_append_replicate]
  congr 1
  omega

/-- A laid row shows its text, without what takes no column at the start and without the spaces at
the end. -/
theorem text_lay (cols : Nat) (t : Text) : (lay cols t).text = t.dropMarks.trimEnd := by
  rw [text_eq_trimEnd, lay, Array.toList_append, shown_append, shown_blank, (shown_typed t).1,
    Text.trimEnd_append_spaces]

/-- What a laid row shows is laid out as the same row. -/
theorem lay_text_lay {cols : Nat} {t : Text} (h : (typed t).size ≤ cols) :
    lay cols (lay cols t).text = lay cols t := by
  rw [text_lay, lay_trimEnd (by rwa [typed_dropMarks]), lay_dropMarks]

@[simp] theorem lay_nil (cols : Nat) : lay cols [] = blank cols := by
  simp [lay, typed]

/-! ### Writing after what is typed -/

/-- A character that takes no column joins what is typed. -/
theorem attach_append (row rest : Row) (c : Char) {n : Nat} (h : n ≤ row.size) :
    (row ++ rest).attach c n = row.attach c n ++ rest := by
  induction n with
  | zero => rfl
  | succ n ih =>
    have hget : (row ++ rest)[n]? = row[n]? := Array.getElem?_append_left (by omega)
    rw [attach, attach, hget]
    split
    · exact ih (by omega)
    · split
      · exact ih (by omega)
      · exact Array.setIfInBounds_append_left (by omega)

theorem getElem?_append_blank (row : Row) {n : Nat} (h : 0 < n) :
    (row ++ blank n)[row.size]? = some .blank := by
  rw [Array.getElem?_append_right (Nat.le_refl _)]
  simp [blank, h]

theorem set_append_blank (row : Row) (n : Nat) (cell : Cell) :
    (row ++ blank (n + 1)).setIfInBounds row.size cell = row.push cell ++ blank n := by
  rw [Array.setIfInBounds_append_right (Nat.le_refl _), Nat.sub_self, blank, Nat.add_comm,
    ← Array.replicate_append_replicate, Array.setIfInBounds_append_left (by simp),
    ← Array.append_assoc]
  rfl

/-- A character that takes columns is put behind what is typed. -/
theorem write_append_blank (row : Row) {c : Char} {n : Nat} (h₀ : 0 < charWidth c)
    (h₂ : charWidth c ≤ 2) (hn : charWidth c ≤ n) :
    (row ++ blank n).write row.size c (charWidth c) = row.typeOn c ++ blank (n - charWidth c) := by
  have hsplit : (row ++ blank n).split row.size = row ++ blank n := by
    have hget := getElem?_append_blank row (n := n) (by omega)
    simp [split, hget, Cell.blank, Cell.isContinuation]
  obtain ⟨k, rfl⟩ := Nat.exists_eq_add_of_le' hn
  rw [write, hsplit, Nat.add_sub_cancel]
  rcases (by omega : charWidth c = 1 ∨ charWidth c = 2) with hc | hc
  · rw [typeOn_one row hc, hc, if_neg (by decide), set_append_blank]
  · rw [typeOn_two row hc, hc, if_pos rfl, set_append_blank row (k + 1),
      ← Array.size_push, set_append_blank]

/-! ### Other widths -/

/-- No text ends with the left half of a wide character. -/
theorem getLast?_width_typed (t : Text) : ((typed t).toList.map Cell.width).getLast? ≠ some 2 := by
  induction t using List.reverseRecOn with
  | nil => simp [typed]
  | append_singleton t c ih =>
    rw [typed_append, List.foldl_cons, List.foldl_nil]
    by_cases hc : charWidth c = 0
    · rwa [typeOn_zero _ hc, map_width_attach]
    · unfold typeOn
      split
      · contradiction
      · simp [Cell.continuation]
      · rename_i h₂
        simpa using h₂

theorem mendEnd_lay (cols : Nat) (t : Text) : mendEnd (lay cols t) = lay cols t := by
  have hlast : ((lay cols t).toList.map Cell.width).getLast? ≠ some 2 := by
    rw [lay, Array.toList_append, List.map_append, List.getLast?_append]
    cases hn : cols - (typed t).size with
    | zero => simpa [blank] using getLast?_width_typed t
    | succ n => simp [blank, Cell.blank, List.replicate_succ']
  have hback : (lay cols t).back?.any (·.width == 2) = false := by
    rw [← Array.getLast?_toList]
    rw [List.getLast?_map] at hlast
    cases h : (lay cols t).toList.getLast? with
    | none => rfl
    | some cell =>
      rw [h] at hlast
      simpa using hlast
  rw [mendEnd, hback]
  rfl

/-- A text that fits two widths is laid out anew by cutting or padding its row. -/
theorem fit_lay {cols cols' : Nat} {t : Text} (h : (typed t).size ≤ cols)
    (h' : (typed t).size ≤ cols') : (lay cols t).fit cols' = lay cols' t := by
  have hrow : (lay cols t).take cols' ++ blank (cols' - (lay cols t).size) = lay cols' t := by
    apply Array.toList_inj.1
    rw [Array.toList_append, Array.take_eq_extract, Array.toList_extract, List.extract_eq_take_drop,
      lay, lay, Array.toList_append, Array.toList_append, List.drop_zero, Nat.sub_zero,
      List.take_append, List.take_of_length_le (by simpa using h'), List.append_assoc]
    congr 1
    simp only [blank, Array.toList_replicate, Array.size_append, Array.size_replicate,
      List.take_replicate, Array.length_toList, List.replicate_append_replicate]
    congr 1
    omega
  rw [fit, hrow, mendEnd_lay]

end Row

end TermSession
