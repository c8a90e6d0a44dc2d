import TermSession.Proofs.Session.Reload
import TermSession.Proofs.Terminal.Refit
import TermSession.Proofs.Terminal.RoundTrip

/-!
# Loading at another size

Lines of plain text that fit two widths are rendered at one size and saved; a session of the other
size loads.  It shows what a surface of its own size shows that is written the lines, and goes on
showing the same, whatever comes afterwards.

* `Screen.IsReplay.shows`: a replayed page is a page;
* `Surface.restored_page`, `Surface.restored_lines`: the page that is restored;
* `Host.reload_at_other_size`.
-/

namespace TermSession

/-! ### Widths -/

namespace Text

/-- What a laid row shows is no wider than its text, and has no other characters. -/
theorem width_shown_le (t : Text) :
    t.dropMarks.trimEnd.width ≤ t.width ∧ ∀ c ∈ t.dropMarks.trimEnd, c ∈ t := by
  obtain ⟨n, hn⟩ := t.dropMarks.exists_trimEnd_append
  have hsplit : t = t.takeWhile (charWidth · = 0) ++
      (t.dropMarks.trimEnd ++ List.replicate n ' ') := by
    rw [← hn]
    exact List.takeWhile_append_dropWhile.symm
  constructor
  · have hwidth := congrArg Text.width hsplit
    rw [width_append, width_append] at hwidth
    omega
  · intro c hc
    rw [hsplit]
    exact List.mem_append_right _ (List.mem_append_left _ hc)

end Text

namespace Screen

variable {s s' : Screen} {z : Size} {lines : List Text} {cursor : Cursor}

/-- The rows of a page show its lines. -/
theorem Shows.mem_lines (h : s.Shows z (lines.map (Row.lay z.cols)) cursor) {l : Text}
    (hl : l ∈ s.scrollbackLines ++ s.screenLines) :
    ∃ t, (t ∈ lines ∨ t = []) ∧ l = t.dropMarks.trimEnd := by
  have hrows := h.allRows_eq
  rw [scrollbackLines, screenLines, ← List.map_append, ← allRows, hrows, List.map_map,
    List.mem_map] at hl
  obtain ⟨t, ht, rfl⟩ := hl
  refine ⟨t, ?_, Row.text_lay _ _⟩
  rcases List.mem_append.1 ht with ht | ht
  · exact .inl ht
  · exact .inr (List.mem_replicate.1 ht).2

/-- A page can be laid out in its width. -/
theorem Shows.fits (h : s.Shows z (lines.map (Row.lay z.cols)) cursor)
    (hwidth : ∀ l ∈ lines, ∀ c ∈ l, charWidth c ≤ 2) (hfit : ∀ l ∈ lines, l.width ≤ z.cols) :
    s.Fits := by
  constructor
  · intro l hl
    obtain ⟨t, ht, rfl⟩ := h.mem_lines hl
    rw [h.size]
    rcases ht with ht | rfl
    · exact Nat.le_trans (Text.width_shown_le t).1 (hfit t ht)
    · exact Nat.zero_le _
  · intro l hl c hc
    obtain ⟨t, ht, rfl⟩ := h.mem_lines hl
    rcases ht with ht | rfl
    · exact hwidth t ht c ((Text.width_shown_le t).2 c hc)
    · exact absurd hc (by simp [Text.dropMarks, Text.trimEnd])

/-- A replayed page is a page, with no wrap pending. -/
theorem IsReplay.shows (h' : s'.IsReplay s) (h : s.Shows z (lines.map (Row.lay z.cols)) cursor)
    (hfit : ∀ l ∈ lines, (Row.typed l).size ≤ z.cols) :
    s'.Shows z (lines.map (Row.lay z.cols)) ⟨cursor.row, cursor.col, false⟩ := by
  have hlay (rows : List Row) (hrows : ∀ row ∈ rows, row ∈ s.allRows) :
      (rows.map Row.text).map (Row.lay z.cols) = rows := by
    rw [List.map_map]
    refine (List.map_congr_left fun row hrow => ?_).trans (List.map_id _)
    have hmem := hrows row hrow
    rw [h.allRows_eq, List.mem_map] at hmem
    obtain ⟨t, ht, rfl⟩ := hmem
    refine Row.lay_text_lay ?_
    rcases List.mem_append.1 ht with ht | ht
    · exact hfit t ht
    · simp [(List.mem_replicate.1 ht).2, Row.typed]
  refine ⟨h'.size.trans h.size, ?_, ?_, ?_, h'.savedCursor, h'.modes, ?_⟩
  · rw [h'.above, scrollbackLines, h.size, hlay _ fun row hrow => List.mem_append_left _ hrow,
      h.above]
  · rw [h'.lines, screenLines, h.size, hlay _ fun row hrow => List.mem_append_right _ hrow,
      h.lines]
  · rw [h'.cursor, h.cursor]
  · rw [h'.margins, h.size]

/-- Pages of the same rows with the same cursor are alike. -/
theorem Shows.alike {rows : List Row} (h : s.Shows z rows cursor) (h' : s'.Shows z rows cursor) :
    s.Alike s' where
  visible_eq := by
    have hlines : s.lines = s'.lines := Array.toList_inj.1 (h.lines.trans h'.lines.symm)
    simp only [visible, hlines, h.size, h'.size, h.cursor, h'.cursor, h.savedCursor,
      h'.savedCursor, h.modes, h'.modes, h.margins, h'.margins]
  scrollbackLines_eq := by
    rw [scrollbackLines, scrollbackLines, h.above, h'.above]

end Screen

namespace Surface

/-- The page of lines that fit, the last of them with room to spare. -/
theorem write_page {z : Size} (hz : 0 < z.rows ∧ 0 < z.cols) (line : Text) (lines : List Text)
    (hplain : ∀ l ∈ line :: lines, l.IsPlain)
    (hwidth : ∀ l ∈ line :: lines, ∀ c ∈ l, charWidth c ≤ 2)
    (hfit : ∀ l ∈ line :: lines, l.width ≤ z.cols)
    (hlast : ((line :: lines).getLast (by simp)).width < z.cols)
    (hcount : (line :: lines).length ≤ Scrollback.limit) :
    ∃ s, (new z).write (Utf8.encode (['\r', '\n'].intercalate (line :: lines))) =
        (⟨s, .idle⟩, []) ∧
      s.Shows z ((line :: lines).map (Row.lay z.cols))
        ⟨Screen.lastRow z ((line :: lines).map (Row.lay z.cols)),
          ((line :: lines).getLast (by simp)).width, false⟩ := by
  rw [List.length_cons] at hcount
  obtain ⟨s, hwrite, hshows⟩ := write_lines [] hz.1 hz.2
    (Screen.shows_blank hz.1 hz.2) line lines hplain hwidth hfit
    (by simp only [List.length_nil]; omega)
  rw [Nat.min_eq_left (by omega), decide_eq_false (by omega)] at hshows
  exact ⟨s, hwrite, hshows⟩

/-- A page that fits two sizes, its last line with room to spare, is restored at one of them from a
snapshot taken at the other as if it had been written there. -/
theorem restored_page {a b : Size} (ha : a.IsShort) (hap : 0 < a.rows ∧ 0 < a.cols)
    (hbp : 0 < b.rows ∧ 0 < b.cols) (line : Text) (lines : List Text)
    (hplain : ∀ l ∈ line :: lines, l.IsPlain)
    (hwidth : ∀ l ∈ line :: lines, ∀ c ∈ l, charWidth c ≤ 2)
    (hfit : ∀ l ∈ line :: lines, l.width ≤ min a.cols b.cols)
    (hlast : ((line :: lines).getLast (by simp)).width < min a.cols b.cols)
    (hcount : (line :: lines).length ≤ Scrollback.limit) :
    let history := Utf8.encode (['\r', '\n'].intercalate (line :: lines))
    (((new a).write history).1.restored b).Alike ((new b).write history).1 := by
  intro history
  have hfita : ∀ l ∈ line :: lines, l.width ≤ a.cols := fun l hl =>
    Nat.le_trans (hfit l hl) (Nat.min_le_left _ _)
  have hfitb : ∀ l ∈ line :: lines, l.width ≤ b.cols := fun l hl =>
    Nat.le_trans (hfit l hl) (Nat.min_le_right _ _)
  have hsize : ∀ l ∈ line :: lines, (Row.typed l).size = l.width := fun l hl =>
    Row.size_typed (hwidth l hl)
  obtain ⟨hlasta, hlastb⟩ := Nat.lt_min.1 hlast
  obtain ⟨sa, hwritea, hshowsa⟩ := write_page hap line lines hplain hwidth hfita hlasta hcount
  obtain ⟨sb, hwriteb, hshowsb⟩ := write_page hbp line lines hplain hwidth hfitb hlastb hcount
  have hsound : sa.Sound a.atLeastOne := by
    have := sound_write (s := new a) (Screen.sound_blank ha) history
    rwa [hwritea] at this
  obtain ⟨s', hwrite, hreplay⟩ := write_transcript hsound (hshowsa.fits hwidth hfita)
  have hshows := hreplay.shows hshowsa fun l hl => by rw [hsize l hl]; exact hfita l hl
  have ha' := Size.atLeastOne_eq hap.1 hap.2
  have hb' := Size.atLeastOne_eq hbp.1 hbp.2
  rw [hwritea, hwriteb]
  have hsa : (⟨sa, .idle⟩ : Surface).size = a := hshowsa.size
  rw [hshowsa.size] at hwrite
  by_cases hab : a = b
  · -- The snapshot is written as it is.
    subst hab
    rw [restored_of_eq (by rw [hsa, ha'])]
    change (((new a).write (Utf8.encode sa.transcript)).1).Alike _
    rw [hwrite]
    exact ⟨hshows.alike hshowsb, rfl⟩
  · -- The snapshot is written to a blank surface of its size, which is then resized.
    have hpositive : a.isPositive = true := by simp [Size.isPositive, hap]
    rw [restored_of_ne (by rw [hsa, hb']; exact hab) (by rw [hsa]; exact hpositive), hsa, hb']
    have hblank : (new b).resize a = new a :=
      congrArg (Surface.mk · .idle) (Screen.resize_blank hap)
    rw [hblank]
    change ((((new a).write (Utf8.encode sa.transcript)).1).resize b).Alike _
    rw [hwrite]
    refine ⟨hshows.resize_alike hshowsb hap.1 hbp (by simp) (by omega) hlastb ?_, rfl⟩
    intro l hl
    rw [hsize l hl]
    exact ⟨hfita l hl, hfitb l hl⟩

/-- Lines that fit two sizes, the last of them with room to spare, are restored at one of them from
a snapshot taken at the other as if they had been written there. -/
theorem restored_lines {a b : Size} (ha : a.IsShort) (hap : 0 < a.rows ∧ 0 < a.cols)
    (hbp : 0 < b.rows ∧ 0 < b.cols) (lines : List Text) (hplain : ∀ l ∈ lines, l.IsPlain)
    (hwidth : ∀ l ∈ lines, ∀ c ∈ l, charWidth c ≤ 2)
    (hfit : ∀ l ∈ lines, l.width ≤ min a.cols b.cols)
    (hlast : ∀ l ∈ lines.getLast?, l.width < min a.cols b.cols)
    (hcount : lines.length ≤ Scrollback.limit) :
    let history := Utf8.encode (['\r', '\n'].intercalate lines)
    (((new a).write history).1.restored b).Alike ((new b).write history).1 := by
  cases lines with
  | nil =>
    -- No line is one empty line.
    have hone : ['\r', '\n'].intercalate ([] : List Text) = ['\r', '\n'].intercalate [[]] := rfl
    rw [hone]
    exact restored_page ha hap hbp [] [] (by simp [Text.IsPlain]) (by simp) (by simp)
      (by simpa using Nat.lt_min.2 ⟨hap.2, hbp.2⟩) (by simp [Scrollback.limit])
  | cons line lines =>
    refine restored_page ha hap hbp line lines hplain hwidth hfit ?_ hcount
    exact hlast _ (List.getLast?_eq_some_getLast (by simp))

end Surface

namespace Host

/-- A session renders lines of plain text that fit its size and another one, the last of them with
room to spare, and saves a snapshot; more output comes, whatever it is, and a session of the other
size loads.  It has that size, and shows what a fresh surface shows that is written everything. -/
theorem reload_at_other_size {id : Text} {config : Config} {b : Backend} (hf : b.failing = [])
    (hs : b.snapshot? id config.snapshots.kind = none) {z z' : Size} (hz : z.IsShort)
    (hz' : z'.IsShort) (hpos : 0 < z.rows ∧ 0 < z.cols) (hpos' : 0 < z'.rows ∧ 0 < z'.cols)
    (lines : List Text) (hplain : ∀ l ∈ lines, l.IsPlain)
    (hwidth : ∀ l ∈ lines, ∀ c ∈ l, charWidth c ≤ 2)
    (hfit : ∀ l ∈ lines, l.width ≤ min z.cols z'.cols)
    (hlast : ∀ l ∈ lines.getLast?, l.width < min z.cols z'.cols)
    (hcount : lines.length ≤ Scrollback.limit) (steps : List HostStep)
    (ht : steps.any HostStep.truncates = false) (hr : steps.any HostStep.resizes = false)
    (tail : List UInt8) (now : Nat) :
    let h := (start id (Surface.new z) config b).run steps
    h.CaughtUp → h.log = Utf8.encode (['\r', '\n'].intercalate lines) →
      let fresh := (((Surface.new z').write h.log).1.write tail).1
      let reloaded := h.reload (Surface.new z') config tail now
      reloaded.isLoaded = true ∧ ∃ s, reloaded.surface = some s ∧ s.size = z' ∧
        s.screen.screenLines = fresh.screen.screenLines ∧
        s.screen.scrollbackLines = fresh.screen.scrollbackLines ∧
        s.screen.cursor = fresh.screen.cursor := by
  intro h hc hlog fresh reloaded
  obtain ⟨hloaded, shown, hsurface, hshown⟩ := exists_reload hf hs z z' steps ht hr tail now hc
  have halike : shown.Alike ((Surface.new z').write h.log).1 := by
    rcases hshown with ⟨hempty, rfl⟩ | rfl
    · have hempty : h.log = [] := hempty
      rw [hempty]
      exact ⟨.refl _, rfl⟩
    · change (((Surface.new z).write h.log).1.restored z').Alike _
      rw [hlog]
      exact Surface.restored_lines hz hpos hpos' lines hplain hwidth hfit hlast hcount
  have hafter := (halike.write tail).1
  have hsize : fresh.screen.Sound z'.atLeastOne :=
    Surface.sound_write (Surface.sound_write (Screen.sound_blank hz') h.log) tail
  refine ⟨hloaded, _, hsurface, ?_, hafter.screen.screenLines_eq, hafter.screen.scrollbackLines_eq,
    hafter.screen.cursor_eq⟩
  rw [Surface.size, hafter.screen.size_eq, hsize.size_eq, Size.atLeastOne_eq hpos'.1 hpos'.2]

/-- Four lines on three rows are loaded on two rows that are wider, and a fifth line follows. -/
theorem reload_at_other_size_abcde :
    let lines : List Text := [['a'], ['b', 'b'], ['c'], ['d']]
    let steps : List HostStep :=
      [.log (.append (Utf8.encode (['\r', '\n'].intercalate lines))), .load 0 []]
    let h := (start [] (Surface.new ⟨3, 2⟩) {} {}).run steps
    ∃ s, (h.reload (Surface.new ⟨2, 4⟩) {} [0x0D, 0x0A, 0x65] 0).surface = some s ∧
      s.size = ⟨2, 4⟩ ∧ s.screen.screenLines = [['d'], ['e']] ∧
      s.screen.scrollbackLines = [['a'], ['b', 'b'], ['c']] ∧ s.screen.cursor = ⟨1, 1, false⟩ := by
  intro lines steps h
  have hchars : lines.all (·.all fun c => 0x20 ≤ c.toNat ∧ c.toNat ≠ 0x7F) = true ∧
      lines.all (·.all (charWidth · ≤ 2)) = true := by decide
  simp only [List.all_eq_true, decide_eq_true_eq] at hchars
  have hc : h.session.isLoaded = true ∧ h.waiting = [] := by decide
  have hlog : h.log = Utf8.encode (['\r', '\n'].intercalate lines) := by decide
  obtain ⟨-, s, hs, hsize, hlines, habove, hcursor⟩ := @reload_at_other_size [] {} {}
    rfl rfl ⟨3, 2⟩ ⟨2, 4⟩ ⟨by decide, by decide⟩ ⟨by decide, by decide⟩
    (by decide) (by decide) lines hchars.1 hchars.2 (by decide) (by decide) (by decide) steps rfl
    rfl [0x0D, 0x0A, 0x65] 0 hc hlog
  refine ⟨s, hs, hsize, ?_, ?_, ?_⟩
  · rw [hlines]
    decide
  · rw [habove]
    decide
  · rw [hcursor]
    decide

end Host

end TermSession
