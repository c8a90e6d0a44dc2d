import TermSession.Proofs.Terminal.Cleared
import TermSession.Proofs.Terminal.Refit

/-!
# Breaking lines

A wrap at the right margin waits for the next character, and a wide character that would stick out
there wraps first.  So a text that is put on a fresh screen is broken into lines greedily: a
character goes on the current line if it fits there, and else opens the next.

* `Text.breakLines`: the lines of a text; `Text.flatten_breakLines`, `Text.nil_not_mem_breakLines`;
* `Screen.put_of_not_fit`: a character that does not fit on the current line;
* `Screen.Shows.putAll`: what a text makes of a screen whose last row is blank;
* `Screen.putAll_breakLines`: what a fresh screen shows, and where its cursor is.
-/

namespace TermSession

namespace Text

/-- The lines of a text, the first of which begins with `line`. -/
def breakAfter (cols : Nat) (line : Text) : Text → List Text
  | [] => [line]
  | c :: t =>
    if line.width + charWidth c ≤ cols then breakAfter cols (line ++ [c]) t
    else line :: breakAfter cols [c] t

/-- The lines of a text, broken greedily: a character opens a line only if it does not fit on the
line before. -/
def breakLines (cols : Nat) (t : Text) : List Text := breakAfter cols [] t

variable {cols : Nat} {line : Text}

theorem breakAfter_ne_nil (cols : Nat) (line t : Text) : breakAfter cols line t ≠ [] := by
  induction t generalizing line with
  | nil => exact List.cons_ne_nil _ _
  | cons c t ih =>
    rw [breakAfter]
    split
    · exact ih _
    · exact List.cons_ne_nil _ _

/-- Breaking a text neither adds nor leaves out a character. -/
theorem flatten_breakAfter (cols : Nat) (line t : Text) :
    (breakAfter cols line t).flatten = line ++ t := by
  induction t generalizing line with
  | nil => simp [breakAfter]
  | cons c t ih =>
    rw [breakAfter]
    split
    · rw [ih, List.append_assoc, List.singleton_append]
    · rw [List.flatten_cons, ih, List.singleton_append]

theorem width_le_of_mem_breakAfter {t : Text} (hline : line.width ≤ cols)
    (ht : ∀ c ∈ t, charWidth c ≤ cols) : ∀ l ∈ breakAfter cols line t, l.width ≤ cols := by
  induction t generalizing line with
  | nil => simpa [breakAfter] using hline
  | cons c t ih =>
    have hc := ht c (by simp)
    have ht' : ∀ c ∈ t, charWidth c ≤ cols := fun c hc => ht c (by simp [hc])
    rw [breakAfter]
    split
    · exact ih (by simpa) ht'
    · exact List.forall_mem_cons.2 ⟨hline, ih (by simpa) ht'⟩

/-- No line is opened before there is a character for it. -/
theorem nil_not_mem_breakAfter (hline : line ≠ []) (t : Text) : [] ∉ breakAfter cols line t := by
  induction t generalizing line with
  | nil => simpa [breakAfter] using hline.symm
  | cons c t ih =>
    rw [breakAfter]
    split
    · exact ih (List.append_ne_nil_of_right_ne_nil _ (List.cons_ne_nil _ _))
    · simpa [hline.symm] using ih (List.cons_ne_nil _ _)

theorem flatten_breakLines (cols : Nat) (t : Text) : (breakLines cols t).flatten = t :=
  flatten_breakAfter cols [] t

/-- Every line fits. -/
theorem width_le_of_mem_breakLines {t : Text} (ht : ∀ c ∈ t, charWidth c ≤ cols) :
    ∀ l ∈ breakLines cols t, l.width ≤ cols := width_le_of_mem_breakAfter (Nat.zero_le _) ht

theorem breakLines_ne_nil (cols : Nat) (t : Text) : breakLines cols t ≠ [] :=
  breakAfter_ne_nil cols [] t

theorem nil_not_mem_breakLines {t : Text} (ht : t ≠ []) (hwidth : ∀ c ∈ t, charWidth c ≤ cols) :
    [] ∉ breakLines cols t := by
  obtain ⟨c, t, rfl⟩ := List.exists_cons_of_ne_nil ht
  rw [breakLines, breakAfter, width_nil, Nat.zero_add, if_pos (hwidth c (by simp))]
  exact nil_not_mem_breakAfter (List.cons_ne_nil _ _) t

theorem dropMarks_eq {t : Text} (h : ∀ c ∈ t, charWidth c ≠ 0) : t.dropMarks = t := by
  cases t with
  | nil => rfl
  | cons c t => simp [dropMarks, h c]

end Text

namespace Screen

theorem wrapLine_eq {s : Screen} (h : s.modes.autoWrap = true) :
    s.wrapLine = s.carriageReturn.lineFeed := by
  have hmodes : s.cancelWrap.modes.autoWrap = true := h
  simp only [wrapLine, hmodes, if_true]
  rfl

/-- A character that does not fit on the current line is put behind a new line. -/
theorem put_of_not_fit {s : Screen} {z : Size} {rows rows' : List Row} {r r' w : Nat} {c : Char}
    (h : s.Shows z rows ⟨r, min w (z.cols - 1), decide (w = z.cols)⟩) (hw : w ≤ z.cols)
    (hcols : 2 ≤ z.cols) (hc : charWidth c = 1 ∨ charWidth c = 2)
    (hover : z.cols < w + charWidth c)
    (h' : s.carriageReturn.lineFeed.Shows z rows' ⟨r', 0, false⟩) :
    s.put c = s.carriageReturn.lineFeed.put c := by
  have hwrap : s.wrapLine = s.carriageReturn.lineFeed := wrapLine_eq (by rw [h.modes])
  have hfits : s.carriageReturn.lineFeed.overhangs (charWidth c) = false := by
    simp only [overhangs, h'.cursor, h'.size]
    grind
  have hzero : charWidth c ≠ 0 := by omega
  rw [put_eq_place hzero (by rw [h'.cursor]) hfits]
  by_cases hfull : w = z.cols
  · -- The line is full, and its wrap waited for this character.
    have hpending : s.cursor.wrapPending = true := by simp [h.cursor, hfull]
    simp only [put, hzero, if_false, hpending, if_true, hwrap, hfits, Bool.false_eq_true]
  · -- One column is left, and the character takes two.
    have hpending : s.cursor.wrapPending = false := by simp [h.cursor, hfull]
    have hout : s.overhangs (charWidth c) = true := by
      simp only [overhangs, h.cursor, h.size, h.modes]
      grind
    simp only [put, hzero, if_false, hpending, hout, if_true, hwrap, Bool.false_eq_true]

/-- A text that is put on a screen whose last row is blank fills one row after the other with its
lines. -/
theorem Shows.putAll {z : Size} (hz : 0 < z.rows) (hcols : 2 ≤ z.cols) (t : Text) {s : Screen}
    {rows : List Row}
    (h : s.Shows z (rows ++ [Row.blank z.cols])
      ⟨lastRow z (rows ++ [Row.blank z.cols]), 0, false⟩)
    {line : Text} (hline : ∀ c ∈ line, charWidth c ≤ 2) (hfit : line.width ≤ z.cols)
    (ht : ∀ c ∈ t, charWidth c = 1 ∨ charWidth c = 2)
    (hlimit : rows.length + (Text.breakAfter z.cols line t).length ≤ z.rows + Scrollback.limit) :
    let lines := Text.breakAfter z.cols line t
    let last := lines.getLast (Text.breakAfter_ne_nil z.cols line t)
    (s.putAll (line ++ t)).Shows z (rows ++ lines.map (Row.lay z.cols))
      ⟨lastRow z (rows ++ lines.map (Row.lay z.cols)), min last.width (z.cols - 1),
        decide (last.width = z.cols)⟩ := by
  induction t generalizing s rows line with
  | nil =>
    rw [List.append_nil]
    exact h.type hz (by omega) hline hfit
  | cons c t ih =>
    have hc := ht c (by simp)
    have ht' : ∀ c ∈ t, charWidth c = 1 ∨ charWidth c = 2 := fun c hc => ht c (by simp [hc])
    by_cases hnext : line.width + charWidth c ≤ z.cols
    · have hlines : Text.breakAfter z.cols line (c :: t) =
          Text.breakAfter z.cols (line ++ [c]) t := by
        rw [Text.breakAfter, if_pos hnext]
      have hchars : ∀ d ∈ line ++ [c], charWidth d ≤ 2 := by grind
      rw [hlines] at hlimit
      simpa only [hlines, List.append_assoc, List.singleton_append] using
        ih h hchars (by simpa using hnext) ht' hlimit
    · have hlines : Text.breakAfter z.cols line (c :: t) =
          line :: Text.breakAfter z.cols [c] t := by
        rw [Text.breakAfter, if_neg hnext]
      have hlength := List.length_pos_iff.2 (Text.breakAfter_ne_nil z.cols [c] t)
      have hpos : 0 < Scrollback.limit := by decide
      rw [hlines, List.length_cons] at hlimit
      have htyped := h.type hz (by omega) hline hfit
      have hnew := htyped.newLine rfl hz (by simp) (by
        rw [List.length_append, List.length_singleton]
        omega)
      have hput : s.putAll (line ++ c :: t) =
          (s.putAll line).carriageReturn.lineFeed.putAll ([c] ++ t) := by
        have hstep := put_of_not_fit htyped hfit hcols hc (Nat.not_le.1 hnext) hnew
        simp only [Screen.putAll, List.foldl_append, List.foldl_cons, List.foldl_nil] at hstep ⊢
        rw [hstep]
      have hchar : ∀ d ∈ [c], charWidth d ≤ 2 := by
        rw [List.forall_mem_singleton]
        omega
      have hrest := ih hnew hchar (by simp; omega) ht' (by
        rw [List.length_append, List.length_singleton]
        omega)
      simpa only [hput, hlines, List.map_cons, List.append_assoc, List.singleton_append,
        List.getLast_cons (Text.breakAfter_ne_nil z.cols [c] t)] using hrest

/-- The rows of a fresh screen on which a text was put are the lines of the text. -/
theorem shows_breakLines {z : Size} (hz : 0 < z.rows) (hcols : 2 ≤ z.cols) {t : Text}
    (ht : ∀ c ∈ t, charWidth c = 1 ∨ charWidth c = 2)
    (hlimit : (t.breakLines z.cols).length ≤ z.rows + Scrollback.limit) :
    let lines := t.breakLines z.cols
    let last := lines.getLast (Text.breakLines_ne_nil z.cols t)
    ((blank z).putAll t).Shows z (lines.map (Row.lay z.cols))
      ⟨lastRow z (lines.map (Row.lay z.cols)), min last.width (z.cols - 1),
        decide (last.width = z.cols)⟩ := by
  have hblank : (blank z).Shows z ([] ++ [Row.blank z.cols])
      ⟨lastRow z ([] ++ [Row.blank z.cols]), 0, false⟩ := by
    simpa [lastRow] using shows_blank hz (by omega)
  exact hblank.putAll hz hcols t (List.forall_mem_nil _) (Nat.zero_le _) ht
    (by simpa [Text.breakLines] using hlimit)

/-- The rows of the lines show them without the spaces at their ends. -/
theorem map_text_breakLines (cols : Nat) {t : Text} (ht : ∀ c ∈ t, charWidth c ≠ 0) :
    ((t.breakLines cols).map (Row.lay cols)).map Row.text =
      (t.breakLines cols).map Text.trimEnd := by
  rw [List.map_map]
  refine List.map_congr_left fun l hl => ?_
  have hwidths : ∀ c ∈ l, charWidth c ≠ 0 := by
    intro c hc
    have hmem := List.mem_flatten_of_mem hl hc
    rw [Text.flatten_breakLines] at hmem
    exact ht c hmem
  rw [Function.comp_apply, Row.text_lay, Text.dropMarks_eq hwidths]

/-- A text of characters that take one column or two, put on a fresh screen, fills the scrollback
and the rows down to the cursor with the lines that it is broken into.  The cursor is behind the last
of them, or in the last column with a wrap pending if the line is full. -/
theorem putAll_breakLines {z : Size} (hcols : 2 ≤ z.cols) {t : Text}
    (ht : ∀ c ∈ t, charWidth c = 1 ∨ charWidth c = 2)
    (hlimit : (t.breakLines z.cols).length ≤ z.atLeastOne.rows + Scrollback.limit) :
    let s := (blank z).putAll t
    let lines := t.breakLines z.cols
    let last := lines.getLast (Text.breakLines_ne_nil z.cols t)
    (s.scrollbackLines ++ s.screenLines).take (s.scrollback.size + s.cursor.row + 1) =
        lines.map Text.trimEnd ∧
      s.scrollback.size + s.cursor.row + 1 = lines.length ∧
      (s.cursor.col, s.cursor.wrapPending) =
        (if last.width = z.cols then (z.cols - 1, true) else (last.width, false)) ∧
      (t ≠ [] → [] ∉ lines) := by
  intro s lines last
  have hz : z.atLeastOne = ⟨max z.rows 1, z.cols⟩ := by
    rw [Size.atLeastOne, Nat.max_eq_left (show 1 ≤ z.cols by omega)]
  have hfresh : blank ⟨max z.rows 1, z.cols⟩ = blank z := by
    simp [blank, ← hz]
  rw [hz] at hlimit
  have hshows : s.Shows ⟨max z.rows 1, z.cols⟩ (lines.map (Row.lay z.cols))
      ⟨lastRow ⟨max z.rows 1, z.cols⟩ (lines.map (Row.lay z.cols)), min last.width (z.cols - 1),
        decide (last.width = z.cols)⟩ := by
    have h := shows_breakLines (z := ⟨max z.rows 1, z.cols⟩) (Nat.le_max_right _ _) hcols ht hlimit
    rwa [hfresh] at h
  have hlength : 0 < lines.length := List.length_pos_iff.2 (Text.breakLines_ne_nil z.cols t)
  have habove : s.scrollback.size = lines.length - max z.rows 1 := by
    rw [← Scrollback.length_toList, hshows.above, List.length_take, List.length_map]
    exact Nat.min_eq_left (Nat.sub_le _ _)
  have hrow : s.cursor.row = min (lines.length - 1) (max z.rows 1 - 1) := by
    rw [hshows.cursor, lastRow, List.length_map]
  have hcount : s.scrollback.size + s.cursor.row + 1 = lines.length := by omega
  have hnarrow : ∀ c ∈ t, charWidth c ≤ z.cols := by
    intro c hc
    have := ht c hc
    omega
  refine ⟨?_, hcount, ?_, fun hne => Text.nil_not_mem_breakLines hne hnarrow⟩
  · rw [hcount, ← map_text_allRows, ← List.map_take, hshows.allRows_eq, ← List.map_take,
      List.take_left]
    exact map_text_breakLines z.cols fun c hc => by
      have := ht c hc
      omega
  · have hlast : last.width ≤ z.cols :=
      Text.width_le_of_mem_breakLines hnarrow last (List.getLast_mem _)
    rw [hshows.cursor]
    by_cases hfull : last.width = z.cols
    · rw [if_pos hfull, decide_eq_true hfull, hfull, Nat.min_eq_right (Nat.sub_le _ _)]
    · rw [if_neg hfull, decide_eq_false hfull, Nat.min_eq_left (by omega)]

set_option maxRecDepth 2000 in
/-- Two lines that a wide character leaves short, and one that is full. -/
theorem putAll_breakLines_wide :
    let t := ['a', ' ', ' ', '你', 'b', '你', '你']
    let z : Size := ⟨2, 4⟩
    let s := (blank z).putAll t
    (∀ c ∈ t, charWidth c = 1 ∨ charWidth c = 2) ∧
      Text.breakLines z.cols t = [['a', ' ', ' '], ['你', 'b'], ['你', '你']] ∧
      (s.scrollbackLines ++ s.screenLines).take (s.scrollback.size + s.cursor.row + 1) =
        (Text.breakLines z.cols t).map Text.trimEnd := by
  intro t z
  have hall : t.all (fun c => charWidth c = 1 || charWidth c = 2) = true := by decide
  have ht : ∀ c ∈ t, charWidth c = 1 ∨ charWidth c = 2 := by
    simpa only [List.all_eq_true, Bool.or_eq_true, decide_eq_true_eq] using hall
  have hlines : Text.breakLines z.cols t = [['a', ' ', ' '], ['你', 'b'], ['你', '你']] := by
    decide
  have hlimit : (Text.breakLines z.cols t).length ≤ z.atLeastOne.rows + Scrollback.limit := by
    rw [hlines]
    exact Nat.le_trans (show 3 ≤ Scrollback.limit by decide) (Nat.le_add_left _ _)
  have hput := @putAll_breakLines z (by decide) t ht hlimit
  exact ⟨ht, hlines, hput.1⟩

end Screen

end TermSession
