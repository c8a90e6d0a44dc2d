import TermSession.Proofs.Terminal.Calls
import TermSession.Proofs.Terminal.Pairs

/-!
# Torn wide characters

Rows that move keep their wide characters whole; what tears them is writing, erasing, inserting and
deleting inside a row, and padding a row that ends with half of one.

* `Screen.Paired`: every row of a screen is paired;
* `Screen.tears`, `Screen.stretches`: an action, or a new size, tears a wide character;
  `Screen.paired_act_iff`, `Screen.paired_resize_iff`: nothing else does;
* `DisplayCall.bytewise`: a run, byte by byte;
* `Surface.paired_iff_untorn`: the wide characters of a run stay paired as long as none is torn.
-/

namespace TermSession

/-- Does a row end with the left half of a wide character? -/
def Row.endsInHalf (row : Row) : Bool := row.widthAt (row.size - 1) == 2

namespace Screen

/-! ### Rows that move -/

/-- The row of the cursor. -/
def cursorLine (s : Screen) : Row := s.lines[s.cursor.row]?.getD #[]

/-- Every row of the grid and above it is paired. -/
structure Paired (s : Screen) : Prop where
  grid : ∀ row ∈ s.lines, row.Paired
  above : ∀ row ∈ s.scrollback.toList, row.Paired

theorem paired_blank (z : Size) : (blank z).Paired where
  grid := Span.forall_replicate (Row.paired_blank _) _
  above := by simp [blank]

theorem paired_clear (s : Screen) : s.clear.Paired where
  grid := Span.forall_replicate (Row.paired_blank _) _
  above := by simp [clear]

namespace Paired

variable {s : Screen}

/-- Pairs are a matter of rows alone. -/
theorem congr (h : s.Paired) {s' : Screen} (hlines : s'.lines = s.lines)
    (habove : s'.scrollback = s.scrollback) : s'.Paired where
  grid := hlines ▸ h.grid
  above := habove ▸ h.above

theorem deleteAt (h : s.Paired) (top n : Nat) : (s.deleteAt top n).Paired where
  grid := Span.forall_delete h.grid (Row.paired_blank _) _ _ _
  above := h.above

theorem insertAt (h : s.Paired) (top n : Nat) : (s.insertAt top n).Paired where
  grid := Span.forall_insert h.grid (Row.paired_blank _) _ _ _
  above := h.above

theorem eraseRows (h : s.Paired) (first last : Nat) : (s.eraseRows first last).Paired where
  grid := Span.forall_fill h.grid (Row.paired_blank _) _ _
  above := h.above

theorem pushAll (h : s.Paired) {rows : List Row} (hrows : ∀ row ∈ rows, row.Paired) :
    ∀ row ∈ (s.scrollback.pushAll rows).toList, row.Paired := by
  have hall := h.above
  generalize s.scrollback = sb at hall ⊢
  induction rows generalizing sb with
  | nil => exact hall
  | cons row rows ih =>
    exact ih (fun r hr => hrows r (by simp [hr])) _
      (Scrollback.forall_push hall (hrows row (by simp)))

theorem scrollUp (h : s.Paired) (n : Nat) : (s.scrollUp n).Paired := by
  have hleaving : ∀ row ∈ (s.leaving n).toList, row.Paired := fun row hrow =>
    Span.forall_append (Span.forall_extract h.grid _ _)
      (Span.forall_replicate (Row.paired_blank _) _) row (Array.mem_toList_iff.1 hrow)
  unfold Screen.scrollUp
  dsimp only
  split
  · exact deleteAt (s := { s with scrollback := s.scrollback.pushAll (s.leaving n).toList })
      ⟨h.grid, h.pushAll hleaving⟩ _ _
  · exact h.deleteAt _ _

theorem lineFeed (h : s.Paired) : s.lineFeed.Paired := by
  unfold Screen.lineFeed
  dsimp only
  split
  · exact scrollUp (s := s.cancelWrap) (h.congr rfl rfl) 1
  · split <;> exact h.congr rfl rfl

theorem reverseIndex (h : s.Paired) : s.reverseIndex.Paired := by
  unfold Screen.reverseIndex
  dsimp only
  split
  · exact insertAt (s := s.cancelWrap) (h.congr rfl rfl) _ 1
  · exact h.congr rfl rfl

theorem wrapLine (h : s.Paired) : s.wrapLine.Paired := by
  unfold Screen.wrapLine
  dsimp only
  split
  · exact lineFeed (s := { s.cancelWrap with cursor.col := 0 }) (h.congr rfl rfl)
  · exact h.congr rfl rfl

theorem control (h : s.Paired) (byte : UInt8) : (s.control byte).Paired := by
  unfold Screen.control
  repeat' split
  · exact h.congr rfl rfl
  · exact h.congr rfl rfl
  · exact h.lineFeed.congr rfl rfl
  · exact h.lineFeed
  · exact h.congr rfl rfl
  · exact h

theorem restoreCursor (h : s.Paired) : s.restoreCursor.Paired := by
  unfold Screen.restoreCursor
  split
  · exact h
  · exact h.congr rfl rfl

theorem escaped (h : s.Paired) (byte : UInt8) : (s.escaped byte).Paired := by
  unfold Screen.escaped
  split
  · exact h.congr rfl rfl
  · exact h.restoreCursor
  · exact h.lineFeed
  · exact lineFeed (s := s.carriageReturn) (h.congr rfl rfl)
  · exact h.reverseIndex
  · exact paired_blank _
  · exact h

theorem insertLines (h : s.Paired) (n : Nat) : (s.insertLines n).Paired := by
  unfold Screen.insertLines
  split
  · exact h.insertAt _ _
  · exact h

theorem deleteLines (h : s.Paired) (n : Nat) : (s.deleteLines n).Paired := by
  unfold Screen.deleteLines
  split
  · exact h.deleteAt _ _
  · exact h

theorem setPrivateMode (h : s.Paired) (mode : Nat) (on : Bool) :
    (s.setPrivateMode mode on).Paired := by
  unfold Screen.setPrivateMode
  repeat' split
  · exact h.congr rfl rfl
  · exact h.congr rfl rfl
  · exact h

theorem setPrivateModes (h : s.Paired) (params : List Nat) (on : Bool) :
    (params.foldl (fun s p => s.setPrivateMode p on) s).Paired := by
  induction params generalizing s with
  | nil => exact h
  | cons p params ih => exact ih (h.setPrivateMode p on)

theorem cursorLine (h : s.Paired) : s.cursorLine.Paired := by
  unfold Screen.cursorLine
  cases hrow : s.lines[s.cursor.row]? with
  | none => exact Row.paired_of_size_eq_zero rfl
  | some row => exact h.grid row (Array.mem_of_getElem? hrow)

end Paired

/-! ### Editing the row of the cursor -/

/-- Does a wide character stand across the left edge of the cell `k` columns right of the cursor? -/
def across (s : Screen) (k : Nat) : Bool := s.cursorLine.widthAt (s.cursor.col + k) == 0

variable {s : Screen}

/-- Editing the row of the cursor keeps a screen paired if it keeps that row paired. -/
theorem paired_updateRow_iff (h : s.Paired) {f : Row → Row}
    (hf : ∀ row, (f row).size = row.size) :
    (s.updateRow f).Paired ↔ (f s.cursorLine).Paired := by
  by_cases hrow : s.cursor.row < s.lines.size
  · have hline : s.cursorLine = s.lines[s.cursor.row] := by
      rw [cursorLine, Array.getElem?_eq_getElem hrow, Option.getD_some]
    constructor
    · intro h'
      have hmem : f s.lines[s.cursor.row] ∈ (s.updateRow f).lines := by
        refine Array.mem_of_getElem? (i := s.cursor.row) ?_
        simp [updateRow, Array.getElem?_modify, Array.getElem?_eq_getElem hrow]
      rw [hline]
      exact h'.grid _ hmem
    · intro hpaired
      refine ⟨fun row hmem => ?_, h.above⟩
      obtain ⟨i, hi, rfl⟩ := Array.mem_iff_getElem.1 hmem
      simp only [updateRow, Array.getElem_modify]
      split
      · subst_vars
        rwa [← hline]
      · exact h.grid _ (Array.getElem_mem _)
  · have hline : s.cursorLine = #[] := by
      rw [cursorLine, Array.getElem?_eq_none (Nat.not_lt.1 hrow), Option.getD_none]
    have hsame : s.lines.modify s.cursor.row f = s.lines := by
      refine Array.ext_getElem? fun i => ?_
      rw [Array.getElem?_modify]
      split
      · subst_vars
        rw [Array.getElem?_eq_none (Nat.not_lt.1 hrow)]
        rfl
      · rfl
    exact iff_of_true (h.congr hsame rfl) (Row.paired_of_size_eq_zero (by rw [hline, hf]; rfl))

theorem across_eq_false_iff (k : Nat) :
    s.across k = false ↔ s.cursorLine.widthAt (s.cursor.col + k) ≠ 0 := by
  simp [across]

theorem paired_insertChars_iff (h : s.Paired) {n : Nat} (hn : 0 < n) :
    (s.insertChars n).Paired ↔ s.across 0 = false := by
  rw [insertChars, paired_updateRow_iff h fun _ => Row.size_insertBlanks .., across_eq_false_iff]
  exact Row.paired_insertBlanks_iff h.cursorLine _ hn

theorem paired_deleteChars_iff (h : s.Paired) {n : Nat} (hn : 0 < n) :
    (s.deleteChars n).Paired ↔ (s.across 0 != s.across n ||
      s.cursor.col + n < s.cursorLine.size && s.cursorLine.endsInHalf) = false := by
  rw [deleteChars, paired_updateRow_iff h fun _ => Row.size_deleteCells ..]
  rw [Row.paired_deleteCells_iff h.cursorLine _ hn]
  simp [across, Row.endsInHalf]

theorem paired_eraseChars_iff (h : s.Paired) {n : Nat} (hn : 0 < n) :
    (s.eraseChars n).Paired ↔ (s.across 0 || s.across n) = false := by
  rw [eraseChars, paired_updateRow_iff h fun _ => Row.size_erase .., Bool.or_eq_false_iff,
    across_eq_false_iff, across_eq_false_iff]
  exact Row.paired_erase_iff h.cursorLine _ hn

/-- Does erasing a part of the row of the cursor tear a wide character? -/
def erasureTears (s : Screen) (part : Nat) : Bool :=
  part == 0 && s.across 0 || part == 1 && s.across 1

theorem paired_eraseLine_iff (h : s.Paired) (part : Nat) :
    (s.eraseLine part).Paired ↔ s.erasureTears part = false := by
  match part with
  | 0 =>
    show (s.updateRow fun row => row.erase s.cursor.col row.size).Paired ↔ _
    rw [paired_updateRow_iff h fun _ => Row.size_erase ..]
    by_cases hsize : s.cursorLine.size = 0
    · have hacross : s.across 0 = false := by
        rw [across_eq_false_iff, Row.widthAt_of_le (by omega)]
        decide
      refine iff_of_true (Row.paired_of_size_eq_zero ?_) (by simp [erasureTears, hacross])
      rw [Row.size_erase, hsize]
    · rw [Row.paired_erase_iff h.cursorLine _ (Nat.pos_of_ne_zero hsize),
        s.cursorLine.widthAt_of_le (Nat.le_add_left _ _)]
      simp [erasureTears, across]
  | 1 =>
    show (s.updateRow fun row => row.erase 0 (s.cursor.col + 1)).Paired ↔ _
    rw [paired_updateRow_iff h fun _ => Row.size_erase ..,
      Row.paired_erase_iff h.cursorLine _ (Nat.succ_pos _)]
    have hfirst := h.cursorLine.widthAt_zero
    simp [erasureTears, across, hfirst]
  | 2 =>
    refine iff_of_true ((paired_updateRow_iff h fun _ => Row.size_blank _).2 ?_) rfl
    exact Row.paired_blank _
  | n + 3 => exact iff_of_true h rfl

/-- Rows that the cursor is not in may be erased first. -/
theorem updateRow_eraseRows (f : Row → Row) {first last : Nat}
    (hrow : s.cursor.row < first ∨ last ≤ s.cursor.row) :
    (s.updateRow f).eraseRows first last = (s.eraseRows first last).updateRow f := by
  have hlines : Span.fill (s.lines.modify s.cursor.row f) s.blankRow first (last - first) =
      (Span.fill s.lines s.blankRow first (last - first)).modify s.cursor.row f := by
    refine Array.ext_getElem? fun i => ?_
    rw [Span.getElem?_fill, Array.getElem?_modify, Array.getElem?_modify, Span.getElem?_fill,
      Array.size_modify]
    grind
  exact congrArg (fun lines => ({ s with lines } : Screen)) hlines

theorem cursorLine_eraseRows {first last : Nat}
    (hrow : s.cursor.row < first ∨ last ≤ s.cursor.row) :
    (s.eraseRows first last).cursorLine = s.cursorLine := by
  unfold cursorLine eraseRows
  dsimp only
  rw [Span.getElem?_fill, if_neg (by omega)]

theorem paired_eraseRows_eraseLine_iff (h : s.Paired) (part : Nat) {first last : Nat}
    (hrow : s.cursor.row < first ∨ last ≤ s.cursor.row) :
    ((s.eraseLine part).eraseRows first last).Paired ↔ s.erasureTears part = false := by
  have hsame : (s.eraseLine part).eraseRows first last =
      (s.eraseRows first last).eraseLine part := by
    unfold eraseLine
    dsimp only
    split
    · exact updateRow_eraseRows _ hrow
    · exact updateRow_eraseRows _ hrow
    · exact updateRow_eraseRows _ hrow
    · rfl
  have htears : (s.eraseRows first last).erasureTears part = s.erasureTears part := by
    unfold erasureTears across
    rw [cursorLine_eraseRows hrow]
    rfl
  rw [hsame, paired_eraseLine_iff (h.eraseRows _ _), htears]

theorem paired_eraseDisplay_iff (h : s.Paired) (part : Nat) :
    (s.eraseDisplay part).Paired ↔ s.erasureTears part = false := by
  match part with
  | 0 => exact paired_eraseRows_eraseLine_iff h 0 (.inl (Nat.lt_succ_self _))
  | 1 => exact paired_eraseRows_eraseLine_iff h 1 (.inr (Nat.le_refl _))
  | 2 => exact iff_of_true (h.eraseRows _ _) rfl
  | 3 => exact iff_of_true ⟨h.grid, by simp [eraseDisplay]⟩ rfl
  | n + 4 => exact iff_of_true h rfl

/-! ### Writing -/

/-- The screen on which a character of a width is placed: that after the wraps before it. -/
def wrapFor (s : Screen) (width : Nat) : Screen :=
  let s := if s.cursor.wrapPending then s.wrapLine else s
  if s.overhangs width then s.wrapLine else s

theorem put_eq_place_wrapFor {c : Char} (h : charWidth c ≠ 0) :
    s.put c = (s.wrapFor (charWidth c)).place c (charWidth c) := by
  rw [put, if_neg h]
  rfl

theorem Paired.wrapFor (h : s.Paired) (width : Nat) : (s.wrapFor width).Paired := by
  have hpending : Paired (if s.cursor.wrapPending then s.wrapLine else s) := by
    split
    · exact h.wrapLine
    · exact h
  unfold Screen.wrapFor
  dsimp only
  generalize (if s.cursor.wrapPending then s.wrapLine else s) = t at hpending ⊢
  split
  · exact hpending.wrapLine
  · exact hpending

theorem paired_place_iff (h : s.Paired) (c : Char) {width : Nat} (hw : width ≠ 0) :
    (s.place c width).Paired ↔ (width == 2 && s.across 2) = false := by
  have hrow : (s.place c width).Paired ↔
      (s.updateRow fun row => row.write s.cursor.col c width).Paired := by
    unfold place
    dsimp only
    split
    · exact ⟨fun h' => h'.congr rfl rfl, fun h' => h'.congr rfl rfl⟩
    · exact ⟨fun h' => h'.congr rfl rfl, fun h' => h'.congr rfl rfl⟩
  rw [hrow, paired_updateRow_iff h fun _ => Row.size_write ..,
    Row.paired_write_iff h.cursorLine _ _ hw]
  simp [across]

theorem paired_put_iff (h : s.Paired) (c : Char) :
    (s.put c).Paired ↔ (charWidth c == 2 && (s.wrapFor 2).across 2) = false := by
  by_cases hw : charWidth c = 0
  · have hattach : s.put c = s.attach c := by
      rw [put, if_pos hw]
    have hpaired : (s.attach c).Paired :=
      (paired_updateRow_iff h fun _ => Row.size_attach ..).2
        ((Row.paired_attach_iff _ _).2 h.cursorLine)
    rw [hattach]
    exact iff_of_true hpaired (by simp [hw])
  · rw [put_eq_place_wrapFor hw, paired_place_iff (h.wrapFor _) c hw]
    by_cases hwide : charWidth c = 2
    · rw [hwide]
    · simp [hwide]

/-! ### Actions -/

/-- Does an action tear a wide character in two? -/
def tears (s : Screen) : ScreenAction → Bool
  | .put c => charWidth c == 2 && (s.wrapFor 2).across 2
  | .execute false final params =>
    let count := max (params.head?.getD 1) 1
    match final with
    | 'J' | 'K' => s.erasureTears (params.head?.getD 0)
    | '@' => s.across 0
    | 'P' =>
      s.across 0 != s.across count ||
        s.cursor.col + count < s.cursorLine.size && s.cursorLine.endsInHalf
    | 'X' => s.across 0 || s.across count
    | _ => false
  | _ => false

theorem paired_execute_iff (h : s.Paired) (isPrivate : Bool) (final : Char) (params : List Nat) :
    (s.execute isPrivate final params).Paired ↔
      s.tears (.execute isPrivate final params) = false := by
  have hcount : 0 < max (params.head?.getD 1) 1 := by omega
  have hmoved {t : Screen} (hlines : t.lines = s.lines) (habove : t.scrollback = s.scrollback) :
      t.Paired ↔ false = false := iff_of_true (h.congr hlines habove) rfl
  cases isPrivate with
  | true =>
    refine iff_of_true ?_ rfl
    unfold execute
    dsimp only
    rw [if_pos rfl]
    split
    · exact h.setPrivateModes params true
    · exact h.setPrivateModes params false
    · exact h
  | false =>
    unfold execute
    dsimp only
    rw [if_neg (by decide)]
    split
    -- Most of them only move the cursor or set a mark, and leave the rows alone.
    any_goals exact hmoved rfl rfl
    · exact paired_eraseDisplay_iff h _
    · exact paired_eraseLine_iff h _
    · exact iff_of_true (h.insertLines _) rfl
    · exact iff_of_true (h.deleteLines _) rfl
    · exact paired_insertChars_iff h hcount
    · exact paired_deleteChars_iff h hcount
    · exact paired_eraseChars_iff h hcount
    · exact iff_of_true (h.scrollUp _) rfl
    · exact iff_of_true (h.insertAt _ _) rfl
    · exact iff_of_true h.restoreCursor rfl
    · split
      · exact hmoved rfl rfl
      · exact hmoved rfl rfl
    · split
      · exact hmoved rfl rfl
      · exact hmoved rfl rfl
    · refine iff_of_true h ?_
      unfold tears
      dsimp only
      split
      all_goals first
        | rfl
        | contradiction

/-- An action keeps a screen paired exactly if it tears no wide character. -/
theorem paired_act_iff (h : s.Paired) (a : ScreenAction) :
    (s.act a).Paired ↔ s.tears a = false := by
  cases a with
  | put c => exact paired_put_iff h c
  | control byte => exact iff_of_true (h.control byte) rfl
  | escaped byte => exact iff_of_true (h.escaped byte) rfl
  | execute isPrivate final params => exact paired_execute_iff h isPrivate final params
  | retitle t => exact iff_of_true (h.congr rfl rfl) rfl

/-! ### Resizing -/

/-- The screen with another number of rows, which are as wide as before. -/
def withRows (s : Screen) (rows : Nat) : Screen :=
  if rows < s.size.rows then s.shrinkRows rows else s.growRows rows

/-- Does a new size pad a row that ends with half of a wide character? -/
def stretches (s : Screen) (z : Size) : Bool :=
  (s.withRows z.atLeastOne.rows).lines.any fun row =>
    row.size < z.atLeastOne.cols && row.endsInHalf

theorem Paired.withRows (h : s.Paired) (rows : Nat) : (s.withRows rows).Paired := by
  unfold Screen.withRows
  split
  · refine ⟨Span.forall_extract h.grid _ _, h.pushAll fun row hrow => ?_⟩
    exact Span.forall_extract h.grid 0 _ row (Array.mem_toList_iff.1 hrow)
  · obtain ⟨hnewest, hrest⟩ := s.scrollback.toList_pull []
      (Nat.min_le_right (rows - s.size.rows) s.scrollback.size)
    rw [List.append_nil] at hnewest
    constructor
    · refine Span.forall_append (Span.forall_append ?_ h.grid)
        (Span.forall_replicate (Row.paired_blank _) _)
      intro row hrow
      rw [hnewest] at hrow
      exact h.above row (List.mem_of_mem_drop (by simpa using hrow))
    · intro row hrow
      have hkept : row ∈ s.scrollback.toList.take
          (s.scrollback.size - min (rows - s.size.rows) s.scrollback.size) := hrest ▸ hrow
      exact h.above row (List.mem_of_mem_take hkept)

/-- A new size keeps a screen paired exactly if it pads no row that ends with half of a wide
character. -/
theorem paired_resize_iff (h : s.Paired) (z : Size) :
    (s.resize z).Paired ↔ s.stretches z = false := by
  have hrows := h.withRows z.atLeastOne.rows
  have hfit {row : Row} (hrow : row ∈ (s.withRows z.atLeastOne.rows).lines) :
      (row.fit z.atLeastOne.cols).Paired ↔
        (decide (row.size < z.atLeastOne.cols) && row.endsInHalf) = false := by
    rw [Row.paired_fit_iff (hrows.grid row hrow)]
    simp [Row.endsInHalf]
  have hlines : (s.resize z).lines =
      (s.withRows z.atLeastOne.rows).lines.map fun row => row.fit z.atLeastOne.cols := rfl
  rw [stretches, Array.any_eq_false']
  constructor
  · intro h' row hrow
    rw [Bool.not_eq_true]
    refine (hfit hrow).1 (h'.grid _ ?_)
    rw [hlines]
    exact Array.mem_map_of_mem hrow
  · intro hkept
    refine ⟨fun row hrow => ?_, hrows.above⟩
    rw [hlines] at hrow
    obtain ⟨row, hmem, rfl⟩ := Array.mem_map.1 hrow
    exact (hfit hmem).2 (by simpa using hkept row hmem)

end Screen

/-! ### Bytes -/

/-- The action tears nothing on any screen. -/
def ScreenAction.IsHarmless (a : ScreenAction) : Prop := ∀ s : Screen, s.tears a = false

namespace Screen

/-- Does one of some actions, carried out in order, tear a wide character? -/
def tearsAny : Screen → List ScreenAction → Bool
  | _, [] => false
  | s, a :: actions => s.tears a || (s.act a).tearsAny actions

/-- If all actions but the last are harmless, they keep a screen paired exactly if none of them
tears a wide character. -/
theorem paired_actAll_iff {s : Screen} (h : s.Paired) {actions : List ScreenAction}
    (hactions : ∀ a ∈ actions.dropLast, a.IsHarmless) :
    (s.actAll actions).Paired ↔ s.tearsAny actions = false := by
  induction actions generalizing s with
  | nil => exact iff_of_true h rfl
  | cons a actions ih =>
    cases actions with
    | nil => simp [tearsAny, paired_act_iff h]
    | cons b actions =>
      have hfirst : s.tears a = false := hactions a (by simp) s
      have hnext := ih ((paired_act_iff h a).2 hfirst) fun c hc => hactions c (by simp [hc])
      show _ ↔ (s.tears a || (s.act a).tearsAny (b :: actions)) = false
      rw [actAll_cons, hnext, hfirst, Bool.false_or]

end Screen

set_option maxRecDepth 2000 in
theorem ScreenAction.IsInterim.isHarmless {a : ScreenAction} (h : a.IsInterim) :
    a.IsHarmless := by
  intro s
  cases a with
  | put c =>
    obtain rfl : c = Utf8.replacement := h
    have hwidth : (charWidth Utf8.replacement == 2) = false := by decide
    simp only [Screen.tears, hwidth, Bool.false_and]
  | retitle t => rfl
  | _ => exact h.elim

/-- Only the last action of a byte may tear a wide character. -/
theorem Decoder.isHarmless_step (d : Decoder) (byte : UInt8) :
    ∀ a ∈ (d.step byte).actions.dropLast, a.IsHarmless := fun a ha =>
  (d.isInterim_step byte a ha).isHarmless

/-! ### Runs -/

/-- A call as calls that each write one byte or none. -/
def DisplayCall.bytewise : DisplayCall → List DisplayCall
  | write data => data.map fun byte => write [byte]
  | call => [call]

theorem DisplayCall.length_data_le_one {call c : DisplayCall} (h : c ∈ call.bytewise) :
    c.data.length ≤ 1 := by
  cases call with
  | write data =>
    obtain ⟨byte, -, rfl⟩ := List.mem_map.1 h
    exact Nat.le_refl 1
  | clear =>
    rw [List.mem_singleton.1 h]
    exact Nat.zero_le 1
  | resize z =>
    rw [List.mem_singleton.1 h]
    exact Nat.zero_le 1

namespace Surface

/-- Does writing bytes tear a wide character? -/
def tearsWriting : Surface → List UInt8 → Bool
  | _, [] => false
  | s, byte :: bytes =>
    s.screen.tearsAny (s.decoder.step byte).actions || (s.feed byte).1.tearsWriting bytes

/-- Does a call tear a wide character? -/
def tears (s : Surface) : DisplayCall → Bool
  | .write data => s.tearsWriting data
  | .clear => false
  | .resize z => s.screen.stretches z

/-- No call of a run tears a wide character. -/
def untorn : Surface → List DisplayCall → Bool
  | _, [] => true
  | s, call :: calls => !s.tears call && (Display.perform s call).untorn calls

variable {s : Surface}

theorem paired_feed_iff (h : s.screen.Paired) (byte : UInt8) :
    (s.feed byte).1.screen.Paired ↔
      s.screen.tearsAny (s.decoder.step byte).actions = false := by
  rw [feed_eq]
  exact Screen.paired_actAll_iff h (s.decoder.isHarmless_step byte)

/-- A byte, a clearing or a resizing keeps a surface paired exactly if it tears nothing. -/
theorem paired_perform_iff (h : s.screen.Paired) {call : DisplayCall}
    (hcall : call.data.length ≤ 1) :
    (Display.perform s call).screen.Paired ↔ s.tears call = false := by
  cases call with
  | write data =>
    match data, hcall with
    | [], _ => exact iff_of_true h rfl
    | [byte], _ =>
      show (s.write [byte]).1.screen.Paired ↔ _
      rw [write_singleton, paired_feed_iff h byte, tears, tearsWriting, tearsWriting, Bool.or_false]
  | clear => exact iff_of_true s.screen.paired_clear rfl
  | resize z => exact Screen.paired_resize_iff h z

/-- Before and after each call of a run everything is paired if and only if no call tears. -/
theorem paired_prefixes_iff (h : s.screen.Paired) {run : List DisplayCall}
    (hrun : ∀ c ∈ run, c.data.length ≤ 1) :
    (∀ done, done <+: run → (Display.performAll s done).screen.Paired) ↔ s.untorn run = true := by
  -- On the run, for any paired surface: the run of the first call alone is a prefix too.
  induction run generalizing s with
  | nil =>
    refine iff_of_true (fun done hdone => ?_) rfl
    rwa [List.prefix_nil.1 hdone]
  | cons call run ih =>
    have hstep := paired_perform_iff h (hrun call (by simp))
    have hrun' : ∀ c ∈ run, c.data.length ≤ 1 := fun c hc => hrun c (by simp [hc])
    rw [untorn, Bool.and_eq_true, Bool.not_eq_true', ← hstep]
    constructor
    · intro hall
      have hnext := hall [call] (List.prefix_append [call] run)
      refine ⟨hnext, (ih hnext hrun').1 fun done hdone => ?_⟩
      exact hall (call :: done) ((List.prefix_cons_inj call).2 hdone)
    · rintro ⟨hnext, huntorn⟩ done hdone
      rcases List.prefix_cons_iff.1 hdone with rfl | ⟨done, rfl, hrest⟩
      · exact h
      · exact (ih hnext hrun').2 huntorn done hrest

theorem untorn_append (calls calls' : List DisplayCall) :
    s.untorn (calls ++ calls') =
      (s.untorn calls && (Display.performAll s calls).untorn calls') := by
  induction calls generalizing s with
  | nil => rfl
  | cons call calls ih =>
    rw [List.cons_append, untorn, ih, untorn, Bool.and_assoc]
    rfl

/-- A call tears and does the same byte by byte. -/
theorem performAll_bytewise (call : DisplayCall) :
    Display.performAll s call.bytewise = Display.perform s call ∧
      s.untorn call.bytewise = !s.tears call := by
  cases call with
  | write data =>
    show Display.performAll s (data.map _) = (s.write data).1 ∧
      s.untorn (data.map _) = !s.tearsWriting data
    induction data generalizing s with
    | nil => exact ⟨rfl, rfl⟩
    | cons byte data ih =>
      have hbyte : Display.perform s (.write [byte]) = (s.feed byte).1 := by
        show (s.write [byte]).1 = _
        rw [write_singleton]
      obtain ⟨hperform, huntorn⟩ := ih (s := (s.feed byte).1)
      constructor
      · show Display.performAll (Display.perform s (.write [byte])) (data.map _) = _
        rw [hbyte, hperform, write_cons]
      · rw [List.map_cons, untorn, hbyte, huntorn]
        simp [tears, tearsWriting]
  | clear => exact ⟨rfl, by simp [DisplayCall.bytewise, untorn]⟩
  | resize z => exact ⟨rfl, by simp [DisplayCall.bytewise, untorn]⟩

theorem performAll_flatMap_bytewise (calls : List DisplayCall) :
    Display.performAll s (calls.flatMap DisplayCall.bytewise) = Display.performAll s calls ∧
      s.untorn (calls.flatMap DisplayCall.bytewise) = s.untorn calls := by
  induction calls generalizing s with
  | nil => exact ⟨rfl, rfl⟩
  | cons call calls ih =>
    obtain ⟨hperform, huntorn⟩ := s.performAll_bytewise call
    rw [List.flatMap_cons, Display.performAll_append, untorn_append, hperform, huntorn, ih.1, ih.2]
    exact ⟨rfl, rfl⟩

/-- However a fresh surface is written to, resized and cleared: after every byte and every call
everything is paired if and only if nothing tears a wide character on the way.  If nothing does,
the rows of the grid are paired in the end. -/
theorem paired_iff_untorn (z : Size) (calls : List DisplayCall) :
    ((∀ done, done <+: calls.flatMap DisplayCall.bytewise →
        (Display.performAll (new z) done).screen.Paired) ↔ (new z).untorn calls = true) ∧
      ((new z).untorn calls = true →
        ∀ row ∈ (Display.performAll (new z) calls).screen.lines, row.Paired) := by
  obtain ⟨hperform, huntorn⟩ := (new z).performAll_flatMap_bytewise calls
  have hbytes : ∀ c ∈ calls.flatMap DisplayCall.bytewise, c.data.length ≤ 1 := by
    intro c hc
    obtain ⟨call, -, hmem⟩ := List.mem_flatMap.1 hc
    exact DisplayCall.length_data_le_one hmem
  have hall := paired_prefixes_iff (s := new z) (Screen.paired_blank z) hbytes
  rw [huntorn] at hall
  refine ⟨hall, fun h => ?_⟩
  have hend := (hall.2 h _ (List.prefix_refl _)).grid
  rwa [hperform] at hend

/-- A wide character is written over the right half of another one, and then a row that it does
not end is padded. -/
theorem paired_iff_untorn_wide :
    let calls : List DisplayCall :=
      [.write (Utf8.encode ['a', '好', 'b', '\x1b', '[', '3', 'G', '你']), .resize ⟨2, 6⟩]
    (new ⟨1, 4⟩).untorn calls = true ∧
      (∀ row ∈ (Display.performAll (new ⟨1, 4⟩) calls).screen.lines, row.Paired) ∧
      ((Display.performAll (new ⟨1, 4⟩) calls).screen.screenLines) = [['a', ' ', '你'], []] := by
  intro calls
  have huntorn : (new ⟨1, 4⟩).untorn calls = true := by decide +kernel
  exact ⟨huntorn, (paired_iff_untorn ⟨1, 4⟩ calls).2 huntorn, by decide +kernel⟩

set_option maxRecDepth 2000 in
/-- A wide character is written so that its right half falls on the left half of another one. -/
theorem torn_by_writing :
    ¬ ∀ row ∈ (Display.performAll (new ⟨1, 4⟩)
      [.write (Utf8.encode ['a', '好', 'b', '\x1b', '[', 'G', '你'])]).screen.lines, row.Paired := by
  decide

end Surface

end TermSession
