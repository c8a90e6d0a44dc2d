import TermSession.Proofs.Terminal.Actions
import TermSession.Proofs.Terminal.Layout

/-!
# Sound screens

What is true of a screen however it was written to, resized and cleared.

* `Cell.Legible`: a cell shows a character that takes columns and then others, none of them a
  control;
* `Screen.Sound`: the grid has the size it says, the cursor and the margins are on it, and every
  cell is legible;
* `Screen.Sound.resize`, `Screen.Sound.clear`, `Surface.sound_write`: it stays so.
-/

namespace TermSession

/-- The cell shows plain characters, the first of which takes columns. -/
def Cell.Legible (cell : Cell) : Prop :=
  cell.isContinuation = true ∨
    ∃ base marks, cell.text = base :: marks ∧ charWidth base ≠ 0 ∧ Text.IsPlain (base :: marks)

theorem Cell.legible_blank : Cell.blank.Legible :=
  .inr ⟨' ', [], rfl, by decide, by simp [Text.IsPlain]⟩

theorem Cell.legible_continuation : Cell.continuation.Legible := .inl rfl

/-- Every cell of the row is legible. -/
def Row.Legible (row : Row) : Prop := ∀ cell ∈ row, cell.Legible

/-! ### Spans -/

namespace Span

variable {α : Type} {P : α → Prop} {xs : Array α} {x : α}

theorem forall_setIfInBounds (h : ∀ y ∈ xs, P y) (hx : P x) (i : Nat) :
    ∀ y ∈ xs.setIfInBounds i x, P y := by
  intro y hy
  rcases Array.mem_or_eq_of_mem_setIfInBounds hy with hy | rfl
  · exact h y hy
  · exact hx

theorem forall_swapIfInBounds (h : ∀ y ∈ xs, P y) (i j : Nat) :
    ∀ y ∈ xs.swapIfInBounds i j, P y := by
  unfold Array.swapIfInBounds
  split
  · split
    · intro y hy
      exact h y ((Array.swap_perm ..).mem_iff.1 hy)
    · exact h
  · exact h

theorem forall_fill (h : ∀ y ∈ xs, P y) (hx : P x) (i n : Nat) : ∀ y ∈ fill xs x i n, P y := by
  induction n generalizing xs i with
  | zero => exact h
  | succ n ih => exact ih (forall_setIfInBounds h hx i) (i + 1)

theorem forall_pullForward (h : ∀ y ∈ xs, P y) (i n k : Nat) :
    ∀ y ∈ pullForward xs i n k, P y := by
  induction k generalizing xs i with
  | zero => exact h
  | succ k ih => exact ih (forall_swapIfInBounds h i (i + n)) (i + 1)

theorem forall_pushBack (h : ∀ y ∈ xs, P y) (i n k : Nat) : ∀ y ∈ pushBack xs i n k, P y := by
  induction k generalizing xs with
  | zero => exact h
  | succ k ih => exact ih (forall_swapIfInBounds h (i + k) (i + k + n))

theorem forall_delete (h : ∀ y ∈ xs, P y) (hx : P x) (first last n : Nat) :
    ∀ y ∈ delete xs first last n x, P y :=
  forall_fill (forall_pullForward h _ _ _) hx _ _

theorem forall_insert (h : ∀ y ∈ xs, P y) (hx : P x) (first last n : Nat) :
    ∀ y ∈ insert xs first last n x, P y :=
  forall_fill (forall_pushBack h _ _ _) hx _ _

theorem forall_extract (h : ∀ y ∈ xs, P y) (i j : Nat) : ∀ y ∈ xs.extract i j, P y := by
  intro y hy
  obtain ⟨k, _, rfl⟩ := Array.mem_extract_iff_getElem.1 hy
  exact h _ (Array.getElem_mem _)

theorem forall_append {ys : Array α} (h : ∀ y ∈ xs, P y) (h' : ∀ y ∈ ys, P y) :
    ∀ y ∈ xs ++ ys, P y := by
  intro y hy
  rcases Array.mem_append.1 hy with hy | hy
  · exact h y hy
  · exact h' y hy

theorem forall_replicate (hx : P x) (n : Nat) : ∀ y ∈ Array.replicate n x, P y := by
  intro y hy
  rwa [Array.eq_of_mem_replicate hy]

theorem forall_modify {f : α → α} (h : ∀ y ∈ xs, P y) (hf : ∀ y, P y → P (f y)) (i : Nat) :
    ∀ y ∈ xs.modify i f, P y := by
  intro y hy
  obtain ⟨j, hj, rfl⟩ := Array.mem_iff_getElem.1 hy
  rw [Array.getElem_modify]
  split
  · exact hf _ (h _ (Array.getElem_mem _))
  · exact h _ (Array.getElem_mem _)

end Span

/-! ### Rows -/

namespace Row

@[simp] theorem size_blank (n : Nat) : (blank n).size = n := Array.size_replicate

@[simp] theorem size_split (row : Row) (col : Nat) : (row.split col).size = row.size := by
  unfold split
  dsimp only
  repeat' split
  all_goals simp

@[simp] theorem size_write (row : Row) (col : Nat) (c : Char) (width : Nat) :
    (row.write col c width).size = row.size := by
  unfold write
  dsimp only
  split <;> simp

@[simp] theorem size_erase (row : Row) (col n : Nat) : (row.erase col n).size = row.size :=
  Span.size_fill ..

@[simp] theorem size_fit (row : Row) (cols : Nat) : (row.fit cols).size = cols := by
  have hcut : (row.take cols ++ blank (cols - row.size)).size = cols := by
    simp
    omega
  unfold fit mendEnd
  split
  · rw [Array.size_setIfInBounds, hcut]
  · exact hcut

variable {row : Row}

theorem legible_blank (n : Nat) : (blank n).Legible := Span.forall_replicate Cell.legible_blank n

theorem Legible.split (h : row.Legible) (col : Nat) : (row.split col).Legible := by
  have hleft : Legible (if 0 < col && row[col]?.any Cell.isContinuation then
      row.setIfInBounds (col - 1) .blank else row) := by
    split
    · exact Span.forall_setIfInBounds h Cell.legible_blank _
    · exact h
  dsimp only [Row.split]
  generalize (if 0 < col && row[col]?.any Cell.isContinuation then
    row.setIfInBounds (col - 1) .blank else row) = left at hleft ⊢
  split
  · exact Span.forall_setIfInBounds hleft Cell.legible_blank _
  · exact hleft

theorem Legible.write (h : row.Legible) (col : Nat) {c : Char} (hc : Text.IsPlain [c])
    (hw : charWidth c ≠ 0) (width : Nat) : (row.write col c width).Legible := by
  have hcell : (⟨[c], width⟩ : Cell).Legible := .inr ⟨c, [], rfl, hw, hc⟩
  have hset := Span.forall_setIfInBounds (h.split col) hcell col
  unfold Row.write
  dsimp only
  split
  · exact Span.forall_setIfInBounds hset Cell.legible_continuation _
  · exact hset

theorem Legible.attach (h : row.Legible) {c : Char} (hc : Text.IsPlain [c]) (col : Nat) :
    (row.attach c col).Legible := by
  induction col with
  | zero => exact h
  | succ col ih =>
    rw [Row.attach]
    split
    · exact ih
    · rename_i cell hcell
      split
      · exact ih
      · refine Span.forall_setIfInBounds h ?_ col
        rcases h cell (Array.mem_of_getElem? hcell) with hcont | ⟨base, marks, ht, hw, hp⟩
        · contradiction
        · refine .inr ⟨base, marks ++ [c], by simp [ht], hw, ?_⟩
          intro d hd
          rcases List.mem_append.1 (by simpa using hd : d ∈ (base :: marks) ++ [c]) with hd | hd
          · exact hp d hd
          · exact hc d hd

theorem Legible.erase (h : row.Legible) (col n : Nat) : (row.erase col n).Legible :=
  Span.forall_fill h Cell.legible_blank _ _

theorem Legible.insertBlanks (h : row.Legible) (col n : Nat) : (row.insertBlanks col n).Legible :=
  Span.forall_insert h Cell.legible_blank _ _ _

theorem Legible.deleteCells (h : row.Legible) (col n : Nat) : (row.deleteCells col n).Legible :=
  Span.forall_delete h Cell.legible_blank _ _ _

theorem Legible.fit (h : row.Legible) (cols : Nat) : (row.fit cols).Legible := by
  have hcut : Legible (row.take cols ++ blank (cols - row.size)) :=
    Span.forall_append (Span.forall_extract h _ _) (legible_blank _)
  unfold Row.fit mendEnd
  split
  · exact Span.forall_setIfInBounds hcut Cell.legible_blank _
  · exact hcut

end Row

/-! ### Scrollbacks -/

namespace Scrollback

variable {sb : Scrollback}

theorem size_push_le (h : sb.size ≤ limit) (row : Row) : (sb.push row).size ≤ limit := by
  rw [← length_toList, toList_push]
  split <;> simp <;> omega

theorem forall_push {P : Row → Prop} (h : ∀ row ∈ sb.toList, P row) {row : Row} (hrow : P row) :
    ∀ r ∈ (sb.push row).toList, P r := by
  have hall : ∀ r ∈ sb.toList ++ [row], P r := by
    simpa [or_imp, forall_and] using ⟨h, hrow⟩
  rw [toList_push]
  split
  · exact hall
  · exact fun r hr => hall r (List.mem_of_mem_drop hr)

/-- Scrollbacks stay within their limit when rows are pushed, and hold what they held or was
pushed. -/
theorem pushAll_le_and_forall {P : Row → Prop} (hs : sb.size ≤ limit)
    (h : ∀ row ∈ sb.toList, P row) {rows : List Row} (hrows : ∀ row ∈ rows, P row) :
    (sb.pushAll rows).size ≤ limit ∧ ∀ row ∈ (sb.pushAll rows).toList, P row := by
  induction rows generalizing sb with
  | nil => exact ⟨hs, h⟩
  | cons row rows ih =>
    exact ih (size_push_le hs row) (forall_push h (hrows row (by simp)))
      fun r hr => hrows r (by simp [hr])

/-- Rows are moved, in order, from a scrollback to the front of a list. -/
theorem toList_pull (sb : Scrollback) (lines : List Row) {n : Nat} (h : n ≤ sb.size) :
    (sb.pull lines n).1 = sb.toList.drop (sb.size - n) ++ lines ∧
      (sb.pull lines n).2.toList = sb.toList.take (sb.size - n) := by
  induction n generalizing sb lines with
  | zero => simp [pull, List.take_of_length_le, List.drop_eq_nil_of_le]
  | succ n ih =>
    cases hpop : sb.pop? with
    | none =>
      have hnil := (pop?_eq_none_iff sb).1 hpop
      have := length_toList sb
      simp [hnil] at this
      omega
    | some popped =>
      obtain ⟨row, rest⟩ := popped
      have hlist := toList_of_pop? hpop
      have hsize : sb.size = rest.size + 1 := by
        rw [← length_toList sb, hlist]
        simp
      obtain ⟨h₁, h₂⟩ := ih rest (row :: lines) (by omega)
      have hsub : rest.size + 1 - (n + 1) = rest.size - n := by omega
      simp only [pull, hpop, h₁, h₂, hlist, hsize, hsub]
      rw [List.drop_append_of_le_length (by simp), List.take_append_of_le_length (by simp)]
      simp

end Scrollback

/-! ### Screens -/

/-- Both dimensions are numbers of sixteen bits. -/
def Size.IsShort (z : Size) : Prop := z.rows ≤ Decimal.maxU16 ∧ z.cols ≤ Decimal.maxU16

theorem Size.IsShort.atLeastOne {z : Size} (h : z.IsShort) : z.atLeastOne.IsShort := by
  have hone : 1 ≤ Decimal.maxU16 := by decide
  exact ⟨Nat.max_le.2 ⟨h.1, hone⟩, Nat.max_le.2 ⟨h.2, hone⟩⟩

/-- The grid has the given size, the cursor and the margins are on it, the scrollback is within its
limit, and every cell is legible. -/
structure Screen.Sound (s : Screen) (z : Size) : Prop where
  size_eq : s.size = z
  rows_pos : 0 < s.size.rows
  cols_pos : 0 < s.size.cols
  isShort : s.size.IsShort
  size_lines : s.lines.size = s.size.rows
  size_line : ∀ row ∈ s.lines, row.size = s.size.cols
  row_lt : s.cursor.row < s.size.rows
  col_lt : s.cursor.col < s.size.cols
  top_le : s.margins.top ≤ s.margins.bottom
  bottom_lt : s.margins.bottom < s.size.rows
  size_scrollback : s.scrollback.size ≤ Scrollback.limit
  legible : ∀ row ∈ s.lines, row.Legible
  legible_above : ∀ row ∈ s.scrollback.toList, row.Legible

namespace Screen

theorem size_of_mem_blankLines (z : Size) : ∀ row ∈ blankLines z, row.size = z.cols :=
  Span.forall_replicate (P := fun row : Row => row.size = z.cols) (Row.size_blank _) _

theorem sound_blank {z : Size} (hz : z.IsShort) : (blank z).Sound z.atLeastOne where
  size_eq := rfl
  rows_pos := z.atLeastOne_pos.1
  cols_pos := z.atLeastOne_pos.2
  isShort := hz.atLeastOne
  size_lines := Array.size_replicate
  size_line := size_of_mem_blankLines _
  row_lt := z.atLeastOne_pos.1
  col_lt := z.atLeastOne_pos.2
  top_le := Nat.zero_le _
  bottom_lt := Nat.sub_lt z.atLeastOne_pos.1 Nat.one_pos
  size_scrollback := Nat.zero_le _
  legible := Span.forall_replicate (Row.legible_blank _) _
  legible_above := by simp [blank]

namespace Sound

variable {s : Screen} {z : Size}

/-! ### Cursor, modes and margins -/

theorem cancelWrap (h : s.Sound z) : s.cancelWrap.Sound z := { h with }

theorem carriageReturn (h : s.Sound z) : s.carriageReturn.Sound z := { h with col_lt := h.cols_pos }

theorem backspace (h : s.Sound z) : s.backspace.Sound z :=
  { h with col_lt := Nat.lt_of_le_of_lt (Nat.sub_le _ _) h.col_lt }

theorem clampCol (h : s.Sound z) (col : Nat) : min col (s.size.cols - 1) < s.size.cols := by
  have := h.cols_pos
  omega

theorem clampRow (h : s.Sound z) (row : Nat) : min row (s.size.rows - 1) < s.size.rows := by
  have := h.rows_pos
  omega

theorem tab (h : s.Sound z) : s.tab.Sound z := { h with col_lt := h.clampCol _ }

theorem cursorUp (h : s.Sound z) (n : Nat) : (s.cursorUp n).Sound z :=
  { h with row_lt := Nat.lt_of_le_of_lt (Nat.sub_le _ _) h.row_lt }

theorem cursorDown (h : s.Sound z) (n : Nat) : (s.cursorDown n).Sound z :=
  { h with row_lt := h.clampRow _ }

theorem cursorForward (h : s.Sound z) (n : Nat) : (s.cursorForward n).Sound z :=
  { h with col_lt := h.clampCol _ }

theorem cursorBackward (h : s.Sound z) (n : Nat) : (s.cursorBackward n).Sound z :=
  { h with col_lt := Nat.lt_of_le_of_lt (Nat.sub_le _ _) h.col_lt }

theorem cursorColumn (h : s.Sound z) (col : Nat) : (s.cursorColumn col).Sound z :=
  { h with col_lt := h.clampCol _ }

theorem cursorRow (h : s.Sound z) (row : Nat) : (s.cursorRow row).Sound z :=
  { h with row_lt := h.clampRow _ }

theorem cursorPosition (h : s.Sound z) (row col : Nat) : (s.cursorPosition row col).Sound z :=
  (h.cursorRow row).cursorColumn col

theorem saveCursor (h : s.Sound z) : s.saveCursor.Sound z := { h with }

theorem restoreCursor (h : s.Sound z) : s.restoreCursor.Sound z := by
  unfold Screen.restoreCursor
  split
  · exact h
  · exact { h with row_lt := h.clampRow _, col_lt := h.clampCol _ }

theorem setPrivateMode (h : s.Sound z) (mode : Nat) (on : Bool) :
    (s.setPrivateMode mode on).Sound z := by
  unfold Screen.setPrivateMode
  split
  · exact { h with }
  · split
    · exact { h with }
    · exact h

theorem setPrivateModes (h : s.Sound z) (params : List Nat) (on : Bool) :
    (params.foldl (fun s p => s.setPrivateMode p on) s).Sound z := by
  induction params generalizing s with
  | nil => exact h
  | cons p params ih => exact ih (h.setPrivateMode p on)

theorem setLineFeedNewLine (h : s.Sound z) (on : Bool) : (s.setLineFeedNewLine on).Sound z :=
  { h with }

theorem withMargins (h : s.Sound z) (top : Nat) {last : Nat} (hlast : last < s.size.rows) :
    ({ s with margins := if top < last then ⟨top, last⟩ else fullMargins s.size } : Screen).Sound
      z := by
  have hrows := h.rows_pos
  split
  · exact { h with top_le := Nat.le_of_lt ‹_›, bottom_lt := hlast }
  · exact { h with top_le := Nat.zero_le _, bottom_lt := Nat.sub_lt hrows Nat.one_pos }

theorem last_lt (h : s.Sound z) (bottom : Nat) :
    (if bottom = 0 then s.size.rows else min bottom s.size.rows) - 1 < s.size.rows := by
  have hrows := h.rows_pos
  split <;> omega

theorem setMargins (h : s.Sound z) (top bottom : Nat) : (s.setMargins top bottom).Sound z :=
  (h.withMargins (top - 1) (h.last_lt bottom)).cursorPosition 1 1

/-! ### Lines -/

theorem legible_blankRow (s : Screen) : s.blankRow.Legible := Row.legible_blank _

theorem size_blankRow (s : Screen) : s.blankRow.size = s.size.cols := Row.size_blank _

theorem deleteAt (h : s.Sound z) (top n : Nat) : (s.deleteAt top n).Sound z :=
  { h with
    size_lines := (Span.size_delete ..).trans h.size_lines
    size_line := Span.forall_delete h.size_line (size_blankRow s) _ _ _
    legible := Span.forall_delete h.legible (legible_blankRow s) _ _ _ }

theorem insertAt (h : s.Sound z) (top n : Nat) : (s.insertAt top n).Sound z :=
  { h with
    size_lines := (Span.size_insert ..).trans h.size_lines
    size_line := Span.forall_insert h.size_line (size_blankRow s) _ _ _
    legible := Span.forall_insert h.legible (legible_blankRow s) _ _ _ }

theorem eraseRows (h : s.Sound z) (first last : Nat) : (s.eraseRows first last).Sound z :=
  { h with
    size_lines := (Span.size_fill ..).trans h.size_lines
    size_line := Span.forall_fill h.size_line (size_blankRow s) _ _
    legible := Span.forall_fill h.legible (legible_blankRow s) _ _ }

theorem updateRow (h : s.Sound z) {f : Row → Row} (hsize : ∀ row, (f row).size = row.size)
    (hf : ∀ row, row.Legible → (f row).Legible) : (s.updateRow f).Sound z :=
  { h with
    size_lines := Array.size_modify.trans h.size_lines
    size_line := Span.forall_modify h.size_line (fun row hrow => (hsize row).trans hrow) _
    legible := Span.forall_modify h.legible hf _ }

theorem eraseLine (h : s.Sound z) (part : Nat) : (s.eraseLine part).Sound z := by
  unfold Screen.eraseLine
  split
  · exact h.updateRow (fun _ => Row.size_erase ..) fun _ hrow => hrow.erase _ _
  · exact h.updateRow (fun _ => Row.size_erase ..) fun _ hrow => hrow.erase _ _
  · exact h.updateRow (fun _ => Row.size_blank _) fun _ _ => Row.legible_blank _
  · exact h

theorem insertChars (h : s.Sound z) (n : Nat) : (s.insertChars n).Sound z :=
  h.updateRow (fun _ => Span.size_insert ..) fun _ hrow => hrow.insertBlanks _ _

theorem deleteChars (h : s.Sound z) (n : Nat) : (s.deleteChars n).Sound z :=
  h.updateRow (fun _ => Span.size_delete ..) fun _ hrow => hrow.deleteCells _ _

theorem eraseChars (h : s.Sound z) (n : Nat) : (s.eraseChars n).Sound z :=
  h.updateRow (fun _ => Row.size_erase ..) fun _ hrow => hrow.erase _ _

theorem insertLines (h : s.Sound z) (n : Nat) : (s.insertLines n).Sound z := by
  unfold Screen.insertLines
  split
  · exact h.insertAt _ _
  · exact h

theorem deleteLines (h : s.Sound z) (n : Nat) : (s.deleteLines n).Sound z := by
  unfold Screen.deleteLines
  split
  · exact h.deleteAt _ _
  · exact h

/-! ### Scrolling -/

theorem pushAll (h : s.Sound z) {rows : List Row} (hrows : ∀ row ∈ rows, row.Legible) :
    ({ s with scrollback := s.scrollback.pushAll rows } : Screen).Sound z :=
  have hpush := Scrollback.pushAll_le_and_forall h.size_scrollback h.legible_above hrows
  { h with size_scrollback := hpush.1, legible_above := hpush.2 }

theorem scrollUp (h : s.Sound z) (n : Nat) : (s.scrollUp n).Sound z := by
  have hleaving : ∀ row ∈ s.leaving n, row.Legible :=
    Span.forall_append (Span.forall_extract h.legible _ _)
      (Span.forall_replicate (legible_blankRow s) _)
  have hleaving' : ∀ row ∈ (s.leaving n).toList, row.Legible := by simpa using hleaving
  unfold Screen.scrollUp
  dsimp only
  split
  · exact (h.pushAll hleaving').deleteAt _ _
  · exact h.deleteAt _ _

theorem scrollDown (h : s.Sound z) (n : Nat) : (s.scrollDown n).Sound z := h.insertAt _ _

theorem lineFeed (h : s.Sound z) : s.lineFeed.Sound z := by
  unfold Screen.lineFeed
  dsimp only
  split
  · exact h.cancelWrap.scrollUp 1
  · split
    · rename_i hlt
      exact { h with row_lt := hlt }
    · exact h.cancelWrap

theorem reverseIndex (h : s.Sound z) : s.reverseIndex.Sound z := by
  unfold Screen.reverseIndex
  dsimp only
  split
  · exact h.cancelWrap.scrollDown 1
  · exact { h with row_lt := Nat.lt_of_le_of_lt (Nat.sub_le _ _) h.row_lt }

/-! ### Writing -/

theorem wrapLine (h : s.Sound z) : s.wrapLine.Sound z := by
  unfold Screen.wrapLine
  dsimp only
  split
  · exact lineFeed (s := { s.cancelWrap with cursor.col := 0 }) { h with col_lt := h.cols_pos }
  · exact h.cancelWrap

theorem place (h : s.Sound z) {c : Char} (hc : Text.IsPlain [c]) (hw : charWidth c ≠ 0)
    (width : Nat) : (s.place c width).Sound z := by
  have hrow := h.updateRow (f := (·.write s.cursor.col c width)) (fun _ => Row.size_write ..)
    fun _ hrow => hrow.write _ hc hw _
  have := h.cols_pos
  unfold Screen.place
  dsimp only
  split
  · exact { hrow with col_lt := Nat.sub_lt h.cols_pos Nat.one_pos }
  · rename_i hlt
    exact { hrow with col_lt := Nat.not_le.1 hlt }

theorem put (h : s.Sound z) {c : Char} (hc : Text.IsPlain [c]) : (s.put c).Sound z := by
  unfold Screen.put
  dsimp only
  split
  · exact h.updateRow (fun _ => Row.size_attach ..) fun _ hrow => hrow.attach hc _
  · rename_i hw
    have hpending : Screen.Sound (if s.cursor.wrapPending then s.wrapLine else s) z := by
      split
      · exact h.wrapLine
      · exact h
    generalize (if s.cursor.wrapPending then s.wrapLine else s) = s' at hpending ⊢
    split
    · exact hpending.wrapLine.place hc hw _
    · exact hpending.place hc hw _

/-! ### Control sequences -/

theorem eraseDisplay (h : s.Sound z) (part : Nat) : (s.eraseDisplay part).Sound z := by
  unfold Screen.eraseDisplay
  dsimp only
  split
  · exact (h.eraseLine 0).eraseRows _ _
  · exact (h.eraseLine 1).eraseRows _ _
  · exact h.eraseRows _ _
  · exact { h with size_scrollback := Nat.zero_le _, legible_above := by simp }
  · exact h

theorem execute (h : s.Sound z) (isPrivate : Bool) (final : Char) (params : List Nat) :
    (s.execute isPrivate final params).Sound z := by
  unfold Screen.execute
  dsimp only
  split
  · split
    · exact h.setPrivateModes params true
    · exact h.setPrivateModes params false
    · exact h
  · split
    · exact h.cursorUp _
    · exact h.cursorDown _
    · exact h.cursorDown _
    · exact h.cursorForward _
    · exact h.cursorForward _
    · exact h.cursorBackward _
    · exact (h.cursorDown _).carriageReturn
    · exact (h.cursorUp _).carriageReturn
    · exact h.cursorColumn _
    · exact h.cursorColumn _
    · exact h.cursorPosition _ _
    · exact h.cursorPosition _ _
    · exact h.cursorRow _
    · exact h.eraseDisplay _
    · exact h.eraseLine _
    · exact h.insertLines _
    · exact h.deleteLines _
    · exact h.insertChars _
    · exact h.deleteChars _
    · exact h.eraseChars _
    · exact h.scrollUp _
    · exact h.scrollDown _
    · exact h.setMargins _ _
    · exact h.saveCursor
    · exact h.restoreCursor
    · split
      · exact h.setLineFeedNewLine true
      · exact h
    · split
      · exact h.setLineFeedNewLine false
      · exact h
    · exact h

theorem control (h : s.Sound z) (byte : UInt8) : (s.control byte).Sound z := by
  unfold Screen.control
  split
  · exact h.backspace
  · split
    · exact h.tab
    · split
      · split
        · exact h.lineFeed.carriageReturn
        · exact h.lineFeed
      · split
        · exact h.carriageReturn
        · exact h

theorem escaped (h : s.Sound z) (byte : UInt8) : (s.escaped byte).Sound z := by
  unfold Screen.escaped
  split
  · exact h.saveCursor
  · exact h.restoreCursor
  · exact h.lineFeed
  · exact h.carriageReturn.lineFeed
  · exact h.reverseIndex
  · have hblank := sound_blank h.isShort
    rw [Size.atLeastOne_eq h.rows_pos h.cols_pos, h.size_eq] at hblank
    rwa [h.size_eq]
  · exact h

/-! ### Resizing and clearing -/

/-- There are so many lines, the scrollback is within its limit, and every cell is legible. -/
structure Rows (s : Screen) (rows : Nat) : Prop where
  size_lines : s.lines.size = rows
  size_scrollback : s.scrollback.size ≤ Scrollback.limit
  legible : ∀ row ∈ s.lines, row.Legible
  legible_above : ∀ row ∈ s.scrollback.toList, row.Legible

theorem shrinkRows (h : s.Sound z) {rows : Nat} (hlt : rows < s.size.rows) :
    Rows (s.shrinkRows rows) rows := by
  have hpush := Scrollback.pushAll_le_and_forall h.size_scrollback h.legible_above
    (show ∀ row ∈ (s.lines.take (s.cursor.row + 1 - rows)).toList, row.Legible from
      fun row hrow => Span.forall_extract h.legible 0 _ row (Array.mem_toList_iff.1 hrow))
  refine ⟨?_, hpush.1, Span.forall_extract h.legible _ _, hpush.2⟩
  have := h.size_lines
  have := h.row_lt
  simp only [Screen.shrinkRows, Array.size_extract]
  omega

theorem growRows (h : s.Sound z) {rows : Nat} (hle : s.size.rows ≤ rows) :
    Rows (s.growRows rows) rows := by
  obtain ⟨hnewest, hrest⟩ := s.scrollback.toList_pull []
    (Nat.min_le_right (rows - s.size.rows) s.scrollback.size)
  have hsize := Scrollback.length_toList s.scrollback
  simp only [List.append_nil] at hnewest
  refine ⟨?_, ?_, ?_, ?_⟩
  all_goals simp only [Screen.growRows]
  · have := h.size_lines
    simp only [hnewest, Array.size_append, List.size_toArray, List.length_drop, hsize,
      Array.size_replicate]
    omega
  · rw [← Scrollback.length_toList, hrest, List.length_take, hsize]
    have := h.size_scrollback
    omega
  · refine Span.forall_append (Span.forall_append ?_ h.legible)
      (Span.forall_replicate (legible_blankRow s) _)
    intro row hrow
    rw [hnewest] at hrow
    exact h.legible_above row (List.mem_of_mem_drop (by simpa using hrow))
  · intro row hrow
    rw [hrest] at hrow
    exact h.legible_above row (List.mem_of_mem_take hrow)

theorem resize (h : s.Sound z) {z' : Size} (hz : z'.IsShort) :
    (s.resize z').Sound z'.atLeastOne := by
  have hrows : Rows (if z'.atLeastOne.rows < s.size.rows then s.shrinkRows z'.atLeastOne.rows
      else s.growRows z'.atLeastOne.rows) z'.atLeastOne.rows := by
    split
    · rename_i hlt
      exact h.shrinkRows hlt
    · rename_i hle
      exact h.growRows (Nat.not_lt.1 hle)
  unfold Screen.resize
  dsimp only
  generalize (if z'.atLeastOne.rows < s.size.rows then s.shrinkRows z'.atLeastOne.rows
    else s.growRows z'.atLeastOne.rows) = s' at hrows ⊢
  have hpos := z'.atLeastOne_pos
  refine
    { size_eq := rfl
      rows_pos := hpos.1
      cols_pos := hpos.2
      isShort := hz.atLeastOne
      size_lines := (Array.size_map).trans hrows.size_lines
      size_line := ?_
      row_lt := ?_
      col_lt := ?_
      top_le := Nat.zero_le _
      bottom_lt := Nat.sub_lt hpos.1 Nat.one_pos
      size_scrollback := hrows.size_scrollback
      legible := ?_
      legible_above := hrows.legible_above }
  · intro row hrow
    obtain ⟨row, -, rfl⟩ := Array.mem_map.1 hrow
    exact Row.size_fit row _
  · show min _ (z'.atLeastOne.rows - 1) < z'.atLeastOne.rows
    omega
  · show min _ (z'.atLeastOne.cols - 1) < z'.atLeastOne.cols
    omega
  · intro row hrow
    obtain ⟨row, hmem, rfl⟩ := Array.mem_map.1 hrow
    exact (hrows.legible row hmem).fit _

theorem clear (h : s.Sound z) : s.clear.Sound z where
  size_eq := h.size_eq
  rows_pos := h.rows_pos
  cols_pos := h.cols_pos
  isShort := h.isShort
  size_lines := Array.size_replicate
  size_line := size_of_mem_blankLines _
  row_lt := h.rows_pos
  col_lt := h.cols_pos
  top_le := Nat.zero_le _
  bottom_lt := Nat.sub_lt h.rows_pos Nat.one_pos
  size_scrollback := Nat.zero_le _
  legible := Span.forall_replicate (Row.legible_blank _) _
  legible_above := by simp [Screen.clear]

end Sound

end Screen

/-! ### Characters -/

namespace Utf8

/-- A sequence of several bytes encodes no character below U+0080. -/
theorem le_of_decode? {bytes : List UInt8} {c : Char} (h : decode? bytes = some c)
    (hl : bytes.length ≠ 1) : 0x80 ≤ c.toNat := by
  unfold decode? at h
  split at h
  · simp at hl
  all_goals first
    | cases h
    | split at h
      · have := toNat_of_scalar? h
        omega
      · cases h

theorem one_lt_of_announced {lead : UInt8} {n : Nat} (h : announced lead = some n) : 1 < n := by
  unfold announced at h
  split at h
  · exact Option.some.inj h ▸ by decide
  · split at h
    · exact Option.some.inj h ▸ by decide
    · split at h
      · exact Option.some.inj h ▸ by decide
      · cases h

end Utf8

/-! ### Actions -/

theorem isPlain_replacement : Text.IsPlain [Utf8.replacement] := by
  intro c hc
  rw [List.mem_singleton.1 hc]
  exact ⟨by decide, by decide⟩

theorem isPlain_ofNat {byte : UInt8} (h : 0x20 ≤ byte.toNat) (h' : byte < 0x80)
    (hne : byte ≠ 0x7F) : Text.IsPlain [Char.ofNat byte.toNat] := by
  intro c hc
  rw [List.mem_singleton.1 hc]
  have hlt : byte.toNat < 0x80 := UInt8.lt_iff_toNat_lt.1 h'
  have hvalid : byte.toNat.isValidChar := .inl (by omega)
  have hn : (Char.ofNat byte.toNat).toNat = byte.toNat := by
    rw [Char.ofNat, dif_pos hvalid]
    rfl
  rw [hn]
  exact ⟨h, fun h => hne (UInt8.toNat_inj.1 h)⟩

/-- The action writes no control character. -/
def ScreenAction.IsPlain : ScreenAction → Prop
  | .put c => Text.IsPlain [c]
  | _ => True

namespace Decoder

theorem isPlain_flushed (held : List UInt8) : ∀ a ∈ flushed held, a.IsPlain := by
  unfold flushed
  split
  · simp
  · simpa [ScreenAction.IsPlain] using isPlain_replacement

theorem isPlain_stepControl (d : Decoder) (byte : UInt8) :
    ∀ a ∈ (d.stepControl byte).actions, a.IsPlain := by
  unfold stepControl
  split
  · exact isPlain_flushed _
  · split
    · exact isPlain_flushed _
    · exact List.forall_mem_append.2 ⟨isPlain_flushed _, by simp [ScreenAction.IsPlain]⟩

theorem isPlain_stepCollect (held : List UInt8) (byte : UInt8) :
    ∀ a ∈ (stepCollect held byte).actions, a.IsPlain := by
  unfold stepCollect
  dsimp only
  split
  · rename_i hlast
    simp only [List.forall_mem_singleton]
    cases hd : Utf8.decode? (held ++ [byte]) with
    | none => exact isPlain_replacement
    | some c =>
      have hlength : (held ++ [byte]).length ≠ 1 := by
        obtain ⟨lead, _, hann⟩ := Option.bind_eq_some_iff.1 hlast
        exact Nat.ne_of_gt (Utf8.one_lt_of_announced hann)
      have := Utf8.le_of_decode? hd hlength
      intro d hd
      simp only [Option.getD_some, List.mem_singleton] at hd
      subst hd
      omega
  · simp

theorem isPlain_stepText (held : List UInt8) {byte : UInt8} (hb : 0x20 ≤ byte.toNat) :
    ∀ a ∈ (stepText held byte).actions, a.IsPlain := by
  have hflushed := isPlain_flushed held
  unfold stepText
  split
  · refine List.forall_mem_append.2 ⟨hflushed, ?_⟩
    split
    · simp
    · simpa [ScreenAction.IsPlain] using isPlain_ofNat hb ‹_› ‹_›
  · split
    · split
      · exact List.forall_mem_append.2 ⟨hflushed, isPlain_stepCollect _ _⟩
      · exact List.forall_mem_append.2
          ⟨hflushed, by simpa [ScreenAction.IsPlain] using isPlain_replacement⟩
    · exact isPlain_stepCollect _ _

theorem isPlain_stepFinish (marks : Marks) (params : List Nat) (byte : UInt8) :
    ∀ a ∈ (stepFinish marks params byte).actions, a.IsPlain := by
  unfold stepFinish
  dsimp only
  split <;> simp [ScreenAction.IsPlain]

theorem isPlain_stepGraphic (d : Decoder) {byte : UInt8} (hb : 0x20 ≤ byte.toNat) :
    ∀ a ∈ (d.stepGraphic byte).actions, a.IsPlain := by
  unfold stepGraphic stepCsiEntry stepCsiParam stepCsiIntermediate
  split
  · simp [stepEscape, ScreenAction.IsPlain]
  · simp
  all_goals
    repeat' split
    all_goals first
      | exact isPlain_stepFinish _ _ _
      | exact isPlain_stepText _ hb
      | simp

end Decoder

theorem OscBuffer.isPlain_actions (b : OscBuffer) : ∀ a ∈ b.actions, a.IsPlain := by
  unfold OscBuffer.actions
  repeat' split
  all_goals simp [ScreenAction.IsPlain]

/-- No byte makes a terminal write a control character. -/
theorem Decoder.isPlain_step (d : Decoder) (byte : UInt8) :
    ∀ a ∈ (d.step byte).actions, a.IsPlain := by
  unfold step
  split
  · rename_i buffer
    unfold stepOscString
    repeat' split
    all_goals first
      | exact buffer.isPlain_actions
      | simp
  · rename_i buffer
    unfold stepOscEscape
    split
    · exact buffer.isPlain_actions
    · exact List.forall_mem_append.2
        ⟨buffer.isPlain_actions, by simp [stepEscape, ScreenAction.IsPlain]⟩
  · split
    · exact isPlain_stepControl _ _
    · rename_i hge
      exact isPlain_stepGraphic _ (Nat.not_lt.1 fun hlt => hge (UInt8.lt_iff_toNat_lt.2 hlt))

namespace Screen.Sound

variable {s : Screen} {z : Size}

theorem act (h : s.Sound z) {a : ScreenAction} (ha : a.IsPlain) : (s.act a).Sound z := by
  cases a with
  | put c => exact h.put ha
  | control byte => exact h.control byte
  | escaped byte => exact h.escaped byte
  | execute isPrivate final params => exact h.execute isPrivate final params
  | retitle t => exact { h with }

theorem actAll (h : s.Sound z) {actions : List ScreenAction} (ha : ∀ a ∈ actions, a.IsPlain) :
    (s.actAll actions).Sound z := by
  induction actions generalizing s with
  | nil => exact h
  | cons a actions ih =>
    exact ih (h.act (ha a (by simp))) fun a' ha' => ha a' (by simp [ha'])

end Screen.Sound

/-! ### Surfaces -/

namespace Surface

variable {s : Surface} {z : Size}

theorem sound_feed (h : s.screen.Sound z) (byte : UInt8) : (s.feed byte).1.screen.Sound z := by
  rw [feed_eq]
  exact h.actAll (s.decoder.isPlain_step byte)

/-- A surface stays sound whatever is written to it. -/
theorem sound_write (h : s.screen.Sound z) (bytes : List UInt8) :
    (s.write bytes).1.screen.Sound z := by
  induction bytes generalizing s with
  | nil => exact h
  | cons byte bytes ih =>
    rw [write_cons]
    exact ih (sound_feed h byte)

end Surface

end TermSession
