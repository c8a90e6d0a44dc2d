import Mathlib.Data.List.DropRight
import TermSession.Proofs.Terminal.Reachable

/-!
# Scrolling

Scrolling moves the rows of a range of the grid by some lines: those that reach its end are lost, or
leave for the scrollback if they leave the grid at the top, and blank rows come in at the other end.
All other rows stay where they are.

* `Scrollback.toList_pushAll_rtake`: of all rows ever added the newest are kept;
* `shiftUp`, `shiftDown`: rows that move;
* `Screen.Rearranges`: the rows of one range are replaced; `Screen.MovesUp`, `Screen.MovesDown`;
* `Screen.Reachable.scrolls`: what each operation that scrolls does to the grid and the scrollback.
-/

namespace TermSession

/-! ### Rows that move -/

section Shifts

variable {α : Type}

/-- Moves the elements of a list `n` places to the front; those in front go, and `x` comes in
behind. -/
def shiftUp (xs : List α) (n : Nat) (x : α) : List α :=
  xs.drop n ++ List.replicate (min n xs.length) x

/-- Moves the elements of a list `n` places to the back; those at the end go, and `x` comes in in
front. -/
def shiftDown (xs : List α) (n : Nat) (x : α) : List α :=
  List.replicate (min n xs.length) x ++ xs.rdrop n

theorem getElem?_shiftUp (xs : List α) (n : Nat) (x : α) (i : Nat) :
    (shiftUp xs n x)[i]? =
      if i < xs.length then if i + n < xs.length then xs[i + n]? else some x else none := by
  rw [shiftUp, List.getElem?_append, List.length_drop, List.getElem?_drop,
    List.getElem?_replicate, Nat.add_comm n i]
  grind

theorem getElem?_shiftDown (xs : List α) (n : Nat) (x : α) (i : Nat) :
    (shiftDown xs n x)[i]? =
      if i < xs.length then if i < n then some x else xs[i - n]? else none := by
  rw [shiftDown, List.getElem?_append, List.length_replicate, List.getElem?_replicate,
    List.rdrop, List.getElem?_take]
  grind

/-- Taking the end of a list needs no more of what stands in front than that end. -/
theorem rtake_rtake_append (xs ys : List α) (n : Nat) :
    (xs.rtake n ++ ys).rtake n = (xs ++ ys).rtake n := by
  simp only [List.rtake_eq_reverse_take_reverse, List.reverse_append, List.reverse_reverse,
    List.take_append, List.take_take]
  rw [Nat.min_eq_left (Nat.sub_le _ _)]

theorem rtake_of_length_le {xs : List α} {n : Nat} (h : xs.length ≤ n) : xs.rtake n = xs := by
  rw [List.rtake, Nat.sub_eq_zero_of_le h, List.drop_zero]

end Shifts

/-- Of the rows that a scrollback holds and is given, it keeps the newest. -/
theorem Scrollback.toList_pushAll_rtake {sb : Scrollback} (h : sb.size ≤ limit) (rows : List Row) :
    (sb.pushAll rows).toList = (sb.toList ++ rows).rtake limit := by
  induction rows generalizing sb with
  | nil =>
    rw [List.append_nil, rtake_of_length_le (by rwa [length_toList])]
    rfl
  | cons row rows ih =>
    have hpush : (sb.push row).toList = (sb.toList ++ [row]).rtake limit := by
      rw [toList_push, List.rtake, List.length_append, length_toList, List.length_singleton]
      split
      · rw [Nat.sub_eq_zero_of_le (by omega), List.drop_zero]
      · rw [show sb.size + 1 - limit = 1 by omega]
    calc ((sb.push row).pushAll rows).toList
        = ((sb.toList ++ [row]).rtake limit ++ rows).rtake limit := by
          rw [ih (size_push_le h row), hpush]
      _ = (sb.toList ++ row :: rows).rtake limit := by
          rw [rtake_rtake_append, List.append_assoc, List.singleton_append]

namespace Screen

/-- The rows of the grid from `first` to `last`. -/
def rowsBetween (s : Screen) (first last : Nat) : List Row :=
  (s.lines.toList.take (last + 1)).drop first

/-- From `s` to `s'` the rows from `first` to `last` have become `rows`, and no other row of the
grid has changed. -/
structure Rearranges (s s' : Screen) (first last : Nat) (rows : List Row) : Prop where
  above : s'.lines.toList.take first = s.lines.toList.take first
  between : s'.rowsBetween first last = rows
  below : s'.lines.toList.drop (last + 1) = s.lines.toList.drop (last + 1)

/-- The rows from `first` to `last` have moved up by `n`, with blank ones behind them. -/
def MovesUp (s s' : Screen) (first last n : Nat) : Prop :=
  s.Rearranges s' first last (shiftUp (s.rowsBetween first last) n s.blankRow)

/-- The rows from `first` to `last` have moved down by `n`, with blank ones in front of them. -/
def MovesDown (s s' : Screen) (first last n : Nat) : Prop :=
  s.Rearranges s' first last (shiftDown (s.rowsBetween first last) n s.blankRow)

/-- The newest rows of the scrollback and of the region once this has moved up by `n`, as many as
the scrollback keeps.  Behind the rows of the region come blank ones. -/
def scrollbackAfter (s : Screen) (n : Nat) : List Row :=
  (s.scrollback.toList ++ (s.rowsBetween s.margins.top s.margins.bottom ++
    List.replicate n s.blankRow).take n).rtake 10000

variable {s : Screen}

theorem getElem?_rowsBetween (s : Screen) (first last i : Nat) :
    (s.rowsBetween first last)[i]? = if first + i ≤ last then s.lines[first + i]? else none := by
  rw [rowsBetween, List.getElem?_drop, List.getElem?_take, Array.getElem?_toList]
  simp only [Nat.lt_succ_iff]

/-- Rows are compared one by one. -/
theorem Rearranges.intro {s' : Screen} {first last : Nat} {rows : List Row}
    (outside : ∀ j, j < first ∨ last < j → s'.lines[j]? = s.lines[j]?)
    (inside : ∀ i, (if first + i ≤ last then s'.lines[first + i]? else none) = rows[i]?) :
    s.Rearranges s' first last rows where
  above := by
    refine List.ext_getElem? fun j => ?_
    rw [List.getElem?_take, List.getElem?_take, Array.getElem?_toList, Array.getElem?_toList]
    split
    · exact outside j (.inl ‹_›)
    · rfl
  between := List.ext_getElem? fun i => (getElem?_rowsBetween ..).trans (inside i)
  below := by
    refine List.ext_getElem? fun j => ?_
    rw [List.getElem?_drop, List.getElem?_drop, Array.getElem?_toList, Array.getElem?_toList]
    exact outside _ (.inr (by omega))

/-- Only the rows of the grid matter. -/
theorem Rearranges.congr {s₁ s₁' s' : Screen} {first last : Nat} {rows : List Row}
    (h : s₁.Rearranges s₁' first last rows) (hs : s₁.lines = s.lines)
    (hs' : s₁'.lines = s'.lines) : s.Rearranges s' first last rows where
  above := by rw [← hs, ← hs', h.above]
  between := by rw [← h.between, rowsBetween, rowsBetween, hs']
  below := by rw [← hs, ← hs', h.below]

namespace Framed

variable (h : s.Framed)
include h

theorem length_rowsBetween (first : Nat) :
    (s.rowsBetween first s.margins.bottom).length = s.margins.bottom + 1 - first := by
  have hbottom := h.bottom_lt
  rw [rowsBetween, List.length_drop, List.length_take, Array.length_toList, h.size_lines]
  omega

/-- Deleted lines leave their range at its start. -/
theorem movesUp_deleteAt {first : Nat} (hfirst : first ≤ s.margins.bottom) (n : Nat) :
    s.MovesUp (s.deleteAt first n) first s.margins.bottom n := by
  have hbottom : s.margins.bottom + 1 ≤ s.lines.size := h.size_lines ▸ h.bottom_lt
  have hline (j : Nat) : (s.deleteAt first n).lines[j]? = _ :=
    Span.getElem?_delete s.lines n s.blankRow j (by omega) hbottom
  refine .intro (fun j hj => ?_) fun i => ?_
  · rw [hline, if_neg (by omega)]
  · rw [getElem?_shiftUp, h.length_rowsBetween, getElem?_rowsBetween, hline]
    by_cases hi : first + i ≤ s.margins.bottom
    · rw [if_pos hi, if_pos (by omega)]
      by_cases hn : first + i + n < s.margins.bottom + 1
      · rw [if_pos hn, if_pos (by omega), if_pos (by omega), if_pos (by omega), Nat.add_assoc]
      · rw [if_neg hn, if_pos (by omega), if_neg (by omega)]
    · rw [if_neg hi, if_neg (by omega)]

/-- Lines pushed on by inserted ones leave their range at its end. -/
theorem movesDown_insertAt {first : Nat} (hfirst : first ≤ s.margins.bottom) (n : Nat) :
    s.MovesDown (s.insertAt first n) first s.margins.bottom n := by
  have hbottom : s.margins.bottom + 1 ≤ s.lines.size := h.size_lines ▸ h.bottom_lt
  have hline (j : Nat) : (s.insertAt first n).lines[j]? = _ :=
    Span.getElem?_insert s.lines n s.blankRow j (by omega) hbottom
  refine .intro (fun j hj => ?_) fun i => ?_
  · rw [hline, if_neg (by omega)]
  · rw [getElem?_shiftDown, h.length_rowsBetween, getElem?_rowsBetween, hline]
    by_cases hi : first + i ≤ s.margins.bottom
    · rw [if_pos hi, if_pos (by omega)]
      by_cases hn : first + i < first + n
      · rw [if_pos hn, if_pos (by omega), if_pos (by omega)]
      · rw [if_neg hn, if_pos (by omega), if_neg (by omega), if_pos (by omega),
          Nat.add_sub_assoc (by omega)]
    · rw [if_neg hi, if_neg (by omega)]

/-- The rows that leave are the first of the region, and blank ones once all of them have left. -/
theorem toList_leaving (n : Nat) :
    (s.leaving n).toList =
      (s.rowsBetween s.margins.top s.margins.bottom ++ List.replicate n s.blankRow).take n := by
  have htop := h.top_le
  have hcount : min (s.margins.top + n) (s.margins.bottom + 1) - s.margins.top =
      min n (s.margins.bottom + 1 - s.margins.top) := by omega
  rw [List.take_append, h.length_rowsBetween, List.take_replicate, Nat.min_eq_left (Nat.sub_le _ _),
    leaving, Array.toList_append, Array.toList_replicate, Array.toList_extract,
    List.extract_eq_take_drop, hcount, rowsBetween, List.drop_take, List.take_take]

/-- Scrolling up moves the rows of the region; those that leave the grid go to the scrollback. -/
theorem movesUp_scrollUp (n : Nat) :
    s.MovesUp (s.scrollUp n) s.margins.top s.margins.bottom n ∧
      (s.scrollUp n).scrollback.toList =
        if s.margins.top = 0 then s.scrollbackAfter n else s.scrollback.toList := by
  have hlines : (s.deleteAt s.margins.top n).lines = (s.scrollUp n).lines := by
    unfold Screen.scrollUp
    dsimp only
    split <;> rfl
  refine ⟨(h.movesUp_deleteAt h.top_le n).congr rfl hlines, ?_⟩
  unfold Screen.scrollUp
  dsimp only
  split
  · rw [scrollbackAfter, ← h.toList_leaving]
    exact Scrollback.toList_pushAll_rtake h.size_scrollback _
  · rfl

/-- A line feed scrolls up by one at the bottom margin, and elsewhere moves the cursor only. -/
theorem movesUp_lineFeed :
    (if s.cursor.row = s.margins.bottom then
        s.MovesUp s.lineFeed s.margins.top s.margins.bottom 1
      else s.lineFeed.lines = s.lines) ∧
      s.lineFeed.scrollback.toList =
        if s.cursor.row = s.margins.bottom ∧ s.margins.top = 0 then s.scrollbackAfter 1
        else s.scrollback.toList := by
  obtain ⟨hmoves, habove⟩ := h.cancelWrap.movesUp_scrollUp 1
  unfold Screen.lineFeed
  dsimp only
  by_cases hrow : s.cursor.row = s.margins.bottom
  · have hrow' : s.cancelWrap.cursor.row = s.cancelWrap.margins.bottom := hrow
    rw [if_pos hrow, if_pos hrow', habove]
    refine ⟨hmoves.congr rfl rfl, ?_⟩
    simp only [hrow, true_and]
    rfl
  · have hrow' : ¬ s.cancelWrap.cursor.row = s.cancelWrap.margins.bottom := hrow
    have hboth : ¬ (s.cursor.row = s.margins.bottom ∧ s.margins.top = 0) := fun h => hrow h.1
    rw [if_neg hrow, if_neg hrow', if_neg hboth]
    split <;> exact ⟨rfl, rfl⟩

/-- A reverse index scrolls down by one at the top margin, and elsewhere moves the cursor only. -/
theorem movesDown_reverseIndex :
    if s.cursor.row = s.margins.top then
      s.MovesDown s.reverseIndex s.margins.top s.margins.bottom 1
    else s.reverseIndex.lines = s.lines := by
  unfold Screen.reverseIndex
  dsimp only
  by_cases hrow : s.cursor.row = s.margins.top
  · have hrow' : s.cancelWrap.cursor.row = s.cancelWrap.margins.top := hrow
    rw [if_pos hrow, if_pos hrow']
    exact (h.cancelWrap.movesDown_insertAt h.top_le 1).congr rfl rfl
  · have hrow' : ¬ s.cancelWrap.cursor.row = s.cancelWrap.margins.top := hrow
    rw [if_neg hrow, if_neg hrow']
    rfl

end Framed

/-- What the operations that scroll do to the rows of the grid and above it. -/
structure Scrolls (s : Screen) (n : Nat) : Prop where
  scrollUp : s.MovesUp (s.scrollUp n) s.margins.top s.margins.bottom n
  scrollDown : s.MovesDown (s.scrollDown n) s.margins.top s.margins.bottom n
  insertLines : s.margins.top ≤ s.cursor.row → s.cursor.row ≤ s.margins.bottom →
    s.MovesDown (s.insertLines n) s.cursor.row s.margins.bottom n
  deleteLines : s.margins.top ≤ s.cursor.row → s.cursor.row ≤ s.margins.bottom →
    s.MovesUp (s.deleteLines n) s.cursor.row s.margins.bottom n
  /-- Outside the region lines are neither inserted nor deleted, and nothing else is done. -/
  outside : s.cursor.row < s.margins.top ∨ s.margins.bottom < s.cursor.row →
    s.insertLines n = s ∧ s.deleteLines n = s
  lineFeed : if s.cursor.row = s.margins.bottom then
      s.MovesUp s.lineFeed s.margins.top s.margins.bottom 1
    else s.lineFeed.lines = s.lines
  reverseIndex : if s.cursor.row = s.margins.top then
      s.MovesDown s.reverseIndex s.margins.top s.margins.bottom 1
    else s.reverseIndex.lines = s.lines
  /-- Rows leave for the scrollback at the top of the grid only. -/
  above_scrollUp : (s.scrollUp n).scrollback.toList =
    if s.margins.top = 0 then s.scrollbackAfter n else s.scrollback.toList
  above_lineFeed : s.lineFeed.scrollback.toList =
    if s.cursor.row = s.margins.bottom ∧ s.margins.top = 0 then s.scrollbackAfter 1
    else s.scrollback.toList
  above_others : ∀ s' ∈ [s.scrollDown n, s.insertLines n, s.deleteLines n, s.reverseIndex],
    s'.scrollback = s.scrollback

theorem inMargins_iff (s : Screen) :
    s.inMargins = true ↔ s.margins.top ≤ s.cursor.row ∧ s.cursor.row ≤ s.margins.bottom := by
  simp [inMargins]

/-- On every screen that can be reached, and by any count, scrolling moves the rows of its range as
far as its height allows and leaves every other row untouched.  The rows that leave the grid at the
top go to the scrollback, which keeps the newest 10000; nothing else that scrolls changes it. -/
theorem Reachable.scrolls (h : s.Reachable) (n : Nat) : s.Scrolls n := by
  have hframed := h.framed
  obtain ⟨hup, habove⟩ := hframed.movesUp_scrollUp n
  obtain ⟨hfeed, hfeedAbove⟩ := hframed.movesUp_lineFeed
  constructor
  case scrollUp => exact hup
  case scrollDown => exact hframed.movesDown_insertAt hframed.top_le n
  case insertLines =>
    intro htop hbottom
    rw [Screen.insertLines, if_pos (s.inMargins_iff.2 ⟨htop, hbottom⟩)]
    exact hframed.movesDown_insertAt hbottom n
  case deleteLines =>
    intro htop hbottom
    rw [Screen.deleteLines, if_pos (s.inMargins_iff.2 ⟨htop, hbottom⟩)]
    exact hframed.movesUp_deleteAt hbottom n
  case outside =>
    intro hout
    have hin : ¬ s.inMargins = true := fun hin => by
      have := s.inMargins_iff.1 hin
      omega
    exact ⟨if_neg hin, if_neg hin⟩
  case lineFeed => exact hfeed
  case reverseIndex => exact hframed.movesDown_reverseIndex
  case above_scrollUp => exact habove
  case above_lineFeed => exact hfeedAbove
  case above_others =>
    have hinsert : (s.insertLines n).scrollback = s.scrollback := by
      unfold Screen.insertLines
      split <;> rfl
    have hdelete : (s.deleteLines n).scrollback = s.scrollback := by
      unfold Screen.deleteLines
      split <;> rfl
    have hreverse : s.reverseIndex.scrollback = s.scrollback := by
      unfold Screen.reverseIndex
      dsimp only
      split <;> rfl
    simpa using ⟨rfl, hinsert, hdelete, hreverse⟩

/-- Three lines leave a region that holds two, and the third row of the grid stays. -/
theorem Reachable.scrolls_past :
    let s := (Display.performAll (Surface.new ⟨3, 2⟩)
      [.write (Utf8.encode ['a', '\r', '\n', 'b', '\r', '\n', 'c', '\x1b', '[', '1', ';', '2', 'r'])]).screen
    s.margins = ⟨0, 1⟩ ∧ s.MovesUp (s.scrollUp 3) 0 1 3 ∧
      (s.scrollUp 3).scrollback.toList = s.scrollbackAfter 3 ∧
      s.scrollbackAfter 3 = [s.lines[0]?.getD #[], s.lines[1]?.getD #[], s.blankRow] := by
  intro s
  have hs : s.Reachable := Surface.reachable_performAll _ _
  have hmargins : s.margins = ⟨0, 1⟩ := by decide
  have hscrolls := Reachable.scrolls hs 3
  have hmoves := hscrolls.scrollUp
  have habove := hscrolls.above_scrollUp
  rw [hmargins] at hmoves habove
  rw [if_pos rfl] at habove
  exact ⟨hmargins, hmoves, habove, by decide⟩

end Screen

end TermSession
