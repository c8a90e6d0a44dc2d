import TermSession.Proofs.Terminal.Calls
import TermSession.Proofs.Terminal.Pages
import TermSession.Proofs.Terminal.Sound

/-!
# Transcripts replay

Writing a transcript to a fresh surface of the same size shows the same rows and puts the cursor
in the same place.

* `Row.Legible.text_lay`: what a legible row shows is shown again when it is laid out;
* `Screen.IsReplay`: the screen that a transcript makes; `Surface.write_transcript`;
* `Surface.replay_transcript`: transcripts of surfaces, whatever was done to them.
-/

namespace TermSession

/-! ### Legible rows -/

namespace Row

variable {row : Row}

theorem isPlain_shown {cells : List Cell} (h : ∀ cell ∈ cells, cell.Legible) :
    (shown cells).IsPlain := by
  intro c hc
  simp only [shown, List.mem_flatMap, List.mem_filter] at hc
  obtain ⟨cell, ⟨hcell, hcont⟩, hmem⟩ := hc
  rcases h cell hcell with hcont' | ⟨base, marks, ht, -, hp⟩
  · simp [hcont'] at hcont
  · exact hp c (ht ▸ hmem)

theorem charWidth_head_shown {cells : List Cell} (h : ∀ cell ∈ cells, cell.Legible) {c : Char}
    {t : Text} (hs : shown cells = c :: t) : charWidth c ≠ 0 := by
  induction cells with
  | nil => simp at hs
  | cons cell cells ih =>
    rw [← List.singleton_append, shown_append] at hs
    rcases h cell (by simp) with hcont | ⟨base, marks, ht, hw, -⟩
    · rw [shown_eq_nil (by simpa using hcont), List.nil_append] at hs
      exact ih (fun cell hcell => h cell (by simp [hcell])) hs
    · cases hcont : cell.isContinuation with
      | true =>
        rw [shown_eq_nil (by simpa using hcont), List.nil_append] at hs
        exact ih (fun cell hcell => h cell (by simp [hcell])) hs
      | false =>
        rw [shown_singleton hcont, ht] at hs
        simp only [List.cons_append, List.cons.injEq] at hs
        exact hs.1 ▸ hw

theorem Legible.isPlain_text (h : row.Legible) : row.text.IsPlain := by
  have hplain := isPlain_shown fun cell hcell => h cell (Array.mem_toList_iff.1 hcell)
  obtain ⟨n, hn⟩ := (shown row.toList).exists_trimEnd_append
  rw [text_eq_trimEnd]
  rw [hn] at hplain
  exact fun c hc => hplain c (List.mem_append_left _ hc)

theorem Legible.dropMarks_text (h : row.Legible) : row.text.dropMarks = row.text := by
  obtain ⟨n, hn⟩ := (shown row.toList).exists_trimEnd_append
  rw [← text_eq_trimEnd] at hn
  cases ht : row.text with
  | nil => rfl
  | cons c t =>
    rw [ht] at hn
    have hw := charWidth_head_shown (fun cell hcell => h cell (Array.mem_toList_iff.1 hcell)) hn
    simp [Text.dropMarks, hw]

theorem trimEnd_text (row : Row) : row.text.trimEnd = row.text := by
  obtain ⟨n, hn⟩ := (shown row.toList).exists_trimEnd_append
  rw [text_eq_trimEnd]
  have h := Text.trimEnd_append_spaces (shown row.toList).trimEnd n
  rw [← hn] at h
  exact h.symm

/-- What a legible row shows is shown again when it is laid out. -/
theorem Legible.text_lay (h : row.Legible) (cols : Nat) : (lay cols row.text).text = row.text := by
  rw [Row.text_lay, h.dropMarks_text, trimEnd_text]

end Row

/-! ### Lines of a transcript -/

namespace Screen

theorem lastShown_le (lines : List Text) : lastShown lines ≤ lines.length := by
  have h := (List.dropWhile_suffix List.isEmpty (l := lines.reverse)).length_le
  simpa [lastShown] using h

/-- Nothing is shown below the last line that shows anything. -/
theorem eq_nil_of_mem_drop_lastShown {lines : List Text} {l : Text}
    (h : l ∈ lines.drop (lastShown lines)) : l = [] := by
  have hsplit : lines = (lines.reverse.dropWhile List.isEmpty).reverse ++
      (lines.reverse.takeWhile List.isEmpty).reverse := by
    rw [← List.reverse_append, List.takeWhile_append_dropWhile, List.reverse_reverse]
  have hdrop : lines.drop (lastShown lines) = (lines.reverse.takeWhile List.isEmpty).reverse := by
    have hleft := @List.drop_left _ (lines.reverse.dropWhile List.isEmpty).reverse
      (lines.reverse.takeWhile List.isEmpty).reverse
    rwa [← hsplit, List.length_reverse] at hleft
  rw [hdrop, List.mem_reverse] at h
  simpa using List.all_eq_true.1 List.all_takeWhile l h

/-- All rows of a screen can be laid out in its width. -/
structure Fits (s : Screen) : Prop where
  width_le : ∀ l ∈ s.scrollbackLines ++ s.screenLines, l.width ≤ s.size.cols
  charWidth_le : ∀ l ∈ s.scrollbackLines ++ s.screenLines, ∀ c ∈ l, charWidth c ≤ 2

theorem mem_of_mem_transcriptLines {s : Screen} {l : Text} (h : l ∈ s.transcriptLines) :
    l ∈ s.scrollbackLines ++ s.screenLines := by
  unfold transcriptLines at h
  dsimp only at h
  split at h
  · exact List.mem_of_mem_take h
  · exact h

theorem Sound.legible_of_mem {s : Screen} {z : Size} (h : s.Sound z) {l : Text}
    (hl : l ∈ s.scrollbackLines ++ s.screenLines) : ∃ row : Row, row.Legible ∧ row.text = l := by
  simp only [scrollbackLines, screenLines, List.mem_append, List.mem_map] at hl
  rcases hl with ⟨row, hrow, rfl⟩ | ⟨row, hrow, rfl⟩
  · exact ⟨row, h.legible_above row hrow, rfl⟩
  · exact ⟨row, h.legible row (Array.mem_toList_iff.1 hrow), rfl⟩

/-- A screen whose rows are laid out as the rows of another show, with the cursor in the same
place, and on which nothing else was set. -/
structure IsReplay (s' s : Screen) : Prop where
  size : s'.size = s.size
  above : s'.scrollback.toList = s.scrollbackLines.map (Row.lay s.size.cols)
  lines : s'.lines.toList = s.screenLines.map (Row.lay s.size.cols)
  cursor : s'.cursor = ⟨s.cursor.row, s.cursor.col, false⟩
  savedCursor : s'.savedCursor = none
  modes : s'.modes = {}
  margins : s'.margins = fullMargins s.size

variable {s s' : Screen} {z : Size}

theorem map_text_lay {lines : List Text} (cols : Nat)
    (h : ∀ l ∈ lines, ∃ row : Row, row.Legible ∧ row.text = l) :
    (lines.map (Row.lay cols)).map Row.text = lines := by
  rw [List.map_map]
  refine (List.map_congr_left fun l hl => ?_).trans (List.map_id _)
  obtain ⟨row, hrow, rfl⟩ := h l hl
  rw [Function.comp_apply, hrow.text_lay]
  rfl

namespace IsReplay

theorem scrollbackLines_eq (h : s'.IsReplay s) (hs : s.Sound z) :
    s'.scrollbackLines = s.scrollbackLines := by
  rw [scrollbackLines, h.above]
  exact map_text_lay _ fun l hl => hs.legible_of_mem (List.mem_append_left _ hl)

theorem screenLines_eq (h : s'.IsReplay s) (hs : s.Sound z) : s'.screenLines = s.screenLines := by
  rw [screenLines, h.lines]
  exact map_text_lay _ fun l hl => hs.legible_of_mem (List.mem_append_right _ hl)

theorem transcript_eq (h : s'.IsReplay s) (hs : s.Sound z) : s'.transcript = s.transcript := by
  have hsize : s'.scrollback.size = s.scrollback.size := by
    rw [← Scrollback.length_toList, h.above]
    simp [scrollbackLines]
  simp only [transcript, transcriptLines, h.scrollbackLines_eq hs, h.screenLines_eq hs, hsize,
    h.cursor]

end IsReplay

theorem Sound.length_screenLines (h : s.Sound z) : s.screenLines.length = s.size.rows := by
  simp [screenLines, h.size_lines]

theorem length_scrollbackLines (s : Screen) : s.scrollbackLines.length = s.scrollback.size := by
  simp [scrollbackLines]

/-- A transcript holds a line for every row, or leaves blank rows at the bottom out if there are
none in the scrollback. -/
theorem Sound.map_lay_transcriptLines (h : s.Sound z) :
    ∃ n ≤ s.size.rows, (s.transcriptLines.map (Row.lay s.size.cols)).length =
        s.scrollback.size + n ∧ 0 < n ∧ (s.scrollback.size ≠ 0 → n = s.size.rows) ∧
      s.transcriptLines.map (Row.lay s.size.cols) ++
          List.replicate (s.size.rows - n) (Row.blank s.size.cols) =
        (s.scrollbackLines ++ s.screenLines).map (Row.lay s.size.cols) := by
  have hlength := h.length_screenLines
  have habove := length_scrollbackLines s
  unfold transcriptLines
  dsimp only
  split
  · rename_i hzero
    have hnil : s.scrollbackLines = [] := by simpa [hzero] using habove
    have hshown := lastShown_le s.screenLines
    have hrow := h.row_lt
    rw [hnil, List.nil_append, hzero]
    generalize hm : max (lastShown s.screenLines) (s.cursor.row + 1) = m
    refine ⟨m, by omega, ?_, by omega, by simp, ?_⟩
    · simp
      omega
    · have hblank : (s.screenLines.drop m).map (Row.lay s.size.cols) =
          List.replicate (s.size.rows - m) (Row.blank s.size.cols) := by
        rw [List.eq_replicate_iff]
        refine ⟨by simp [hlength], fun row hrow => ?_⟩
        obtain ⟨l, hl, rfl⟩ := List.mem_map.1 hrow
        have hmem : l ∈ s.screenLines.drop (lastShown s.screenLines) :=
          (List.drop_subset_drop_left _ (by omega)) hl
        rw [eq_nil_of_mem_drop_lastShown hmem, Row.lay_nil]
      rw [← hblank, ← List.map_append, List.take_append_drop]
  · refine ⟨s.size.rows, Nat.le_refl _, ?_, h.rows_pos, fun _ => rfl, ?_⟩
    · simp [hlength, habove]
    · simp

/-- The rows of a transcript, one after the other, and the position of the cursor. -/
theorem Shows.isReplay {cursor : Cursor} (hs : s.Sound z)
    (h : s'.Shows s.size (s.transcriptLines.map (Row.lay s.size.cols)) cursor) :
    (s'.cursorPosition (s.cursor.row + 1) (s.cursor.col + 1)).IsReplay s := by
  obtain ⟨n, hn, hlength, hpos, hfull, hrows⟩ := hs.map_lay_transcriptLines
  have habove := length_scrollbackLines s
  have hcount : s.scrollback.size + n - s.size.rows = s.scrollback.size := by
    by_cases hzero : s.scrollback.size = 0
    · omega
    · have := hfull hzero
      omega
  have hlines := h.lines
  have hsb := h.above
  rw [hlength, hcount] at hlines hsb
  have hrest : s.size.rows - (s.scrollback.size + n) = s.size.rows - n := by
    by_cases hzero : s.scrollback.size = 0
    · omega
    · have := hfull hzero
      omega
  rw [hrest, ← List.drop_append_of_le_length (by omega), hrows, List.map_append] at hlines
  rw [← List.take_append_of_le_length (by omega), hrows, List.map_append] at hsb
  have hlength' : (s.scrollbackLines.map (Row.lay s.size.cols)).length = s.scrollback.size := by
    simp [habove]
  have hr := hs.row_lt
  have hc := hs.col_lt
  refine ⟨h.size, ?_, ?_, ?_, h.savedCursor, h.modes, h.margins⟩
  · exact hsb.trans (List.take_left' hlength')
  · exact hlines.trans (List.drop_left' hlength')
  · simp only [cursorPosition, cursorColumn, cursorRow, cancelWrap, h.size]
    rw [Cursor.mk.injEq]
    exact ⟨by omega, by omega, rfl⟩

end Screen

namespace Surface

/-- Writing the transcript of a sound screen whose rows fit to a fresh surface of its size makes a
replay of it, and no commands. -/
theorem write_transcript {s : Screen} {z : Size} (hs : s.Sound z) (hf : s.Fits) :
    ∃ s', (new s.size).write (Utf8.encode s.transcript) = (⟨s', .idle⟩, []) ∧
      s'.IsReplay s := by
  obtain ⟨n, hn, hlength, hpos, -⟩ := hs.map_lay_transcriptLines
  rw [List.length_map] at hlength
  obtain ⟨line, lines, hlines⟩ := List.exists_cons_of_length_pos (l := s.transcriptLines) (by omega)
  have hmem {l : Text} (hl : l ∈ line :: lines) : l ∈ s.scrollbackLines ++ s.screenLines :=
    Screen.mem_of_mem_transcriptLines (hlines ▸ hl)
  have hplain : ∀ l ∈ line :: lines, l.IsPlain := by
    intro l hl
    obtain ⟨row, hrow, rfl⟩ := hs.legible_of_mem (hmem hl)
    exact hrow.isPlain_text
  have hlimit : ([] : List Row).length + lines.length + 1 ≤ s.size.rows + Scrollback.limit := by
    have := hs.size_scrollback
    rw [hlines, List.length_cons] at hlength
    simp only [List.length_nil]
    omega
  obtain ⟨s₁, hwrite, hshows⟩ := write_lines [] hs.rows_pos hs.cols_pos
    (Screen.shows_blank hs.rows_pos hs.cols_pos) line lines hplain
    (fun l hl => hf.charWidth_le l (hmem hl)) (fun l hl => hf.width_le l (hmem hl)) hlimit
  have hreplay := Screen.Shows.isReplay (s := s) hs (by rw [hlines]; exact hshows)
  have hposition := write_positionSequence s₁ (Nat.le_trans hs.row_lt hs.isShort.1)
    (Nat.le_trans hs.col_lt hs.isShort.2)
  refine ⟨_, ?_, hreplay⟩
  rw [Screen.transcript, hlines, Utf8.encode_append, write_append]
  have hnew : new s.size = ⟨.blank s.size, .idle⟩ := rfl
  rw [hnew, hwrite, hposition]
  rfl

/-- Surfaces are sound whatever is done to them. -/
theorem sound_performAll {z : Size} (hz : z.IsShort) (calls : List DisplayCall)
    (hcalls : ∀ z, .resize z ∈ calls → z.IsShort) :
    ∃ z', (Display.performAll (new z) calls).screen.Sound z' := by
  induction calls using List.reverseRecOn with
  | nil => exact ⟨_, Screen.sound_blank hz⟩
  | append_singleton calls c ih =>
    obtain ⟨z', ih⟩ := ih fun z hz => hcalls z (List.mem_append_left _ hz)
    rw [Display.performAll_snoc]
    cases c with
    | write data => exact ⟨_, sound_write ih data⟩
    | clear => exact ⟨_, ih.clear⟩
    | resize z => exact ⟨_, ih.resize (hcalls z (by simp))⟩

/-- The transcript of a surface, whatever was written to it and however it was resized and
cleared, replays to the same rows and the same cursor if its rows fit, and completes no commands;
the transcript of the replay is the same. -/
theorem replay_transcript {z : Size} (hz : z.IsShort) (calls : List DisplayCall)
    (hcalls : ∀ z, .resize z ∈ calls → z.IsShort)
    (hf : (Display.performAll (new z) calls).screen.Fits) :
    let s := Display.performAll (new z) calls
    let replay := (new s.size).write (Utf8.encode s.transcript)
    replay.2 = [] ∧ replay.1.screen.scrollbackLines = s.screen.scrollbackLines ∧
      replay.1.screen.screenLines = s.screen.screenLines ∧
      replay.1.screen.cursor.row = s.screen.cursor.row ∧
      replay.1.screen.cursor.col = s.screen.cursor.col ∧ replay.1.transcript = s.transcript := by
  intro s replay
  obtain ⟨z', hs⟩ := sound_performAll hz calls hcalls
  obtain ⟨s', hwrite, hreplay⟩ := write_transcript hs hf
  have hwrite : replay = (⟨s', .idle⟩, []) := hwrite
  have hrow : s'.cursor.row = s.screen.cursor.row := by rw [hreplay.cursor]
  have hcol : s'.cursor.col = s.screen.cursor.col := by rw [hreplay.cursor]
  rw [hwrite]
  exact ⟨rfl, hreplay.scrollbackLines_eq hs, hreplay.screenLines_eq hs, hrow, hcol,
    hreplay.transcript_eq hs⟩

/-- Three lines, the second as wide as the grid, on a surface that then loses a row. -/
theorem replay_transcript_abc :
    let calls : List DisplayCall :=
      [.write [0x61, 0x0D, 0x0A, 0x62, 0x62, 0x0D, 0x0A, 0x63], .resize ⟨2, 2⟩]
    let s := Display.performAll (new ⟨3, 2⟩) calls
    let replay := ((new s.size).write (Utf8.encode s.transcript)).1
    s.screen.scrollbackLines = [['a']] ∧ s.screen.screenLines = [['b', 'b'], ['c']] ∧
      replay.screen.scrollbackLines = [['a']] ∧ replay.screen.screenLines = [['b', 'b'], ['c']] := by
  intro calls s replay
  have hz : Size.IsShort ⟨3, 2⟩ := ⟨by decide, by decide⟩
  have hcalls : ∀ z, .resize z ∈ calls → z.IsShort := by
    intro z hmem
    simp only [calls, List.mem_cons, reduceCtorEq, DisplayCall.resize.injEq, List.not_mem_nil,
      or_false, false_or] at hmem
    exact hmem ▸ ⟨by decide, by decide⟩
  have habove : s.screen.scrollbackLines = [['a']] := by decide
  have hlines : s.screen.screenLines = [['b', 'b'], ['c']] := by with_unfolding_all decide
  have hsize : s.screen.size = ⟨2, 2⟩ := rfl
  have hf : s.screen.Fits := by
    refine ⟨?_, ?_⟩
    all_goals rw [habove, hlines]
    · rw [hsize]
      decide
    · have hall : ([['a']] ++ [['b', 'b'], ['c']]).all (·.all (charWidth · ≤ 2)) = true := by decide
      simpa only [List.all_eq_true, decide_eq_true_eq] using hall
  obtain ⟨-, h₁, h₂, -⟩ := replay_transcript hz calls hcalls hf
  exact ⟨habove, hlines, h₁.trans habove, h₂.trans hlines⟩

end Surface

end TermSession
