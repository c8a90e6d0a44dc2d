import TermSession.Proofs.Session.Reload
import TermSession.Proofs.Terminal.Alike
import TermSession.Proofs.Terminal.RoundTrip

/-!
# Loading at the same size

A snapshot keeps what the rows show and where the cursor is, and nothing else: no unfinished
sequence or character, no wrap that waits, no saved cursor, no modes and no margins.  A session
that loads from it goes on from there.

* `Screen.view`: what is compared;
* `Screen.kept`, `Surface.kept`: what a snapshot keeps;
* `Surface.Settled`: when there is nothing else to keep;
* `Host.reload_at_same_size`; `Host.reload_unlike_live`: what is lost when there is.
-/

namespace TermSession

namespace Screen

/-- What the rows show, on the grid and above it, and where the cursor is. -/
def view (s : Screen) : List Text × List Text × Nat × Nat :=
  (s.screenLines, s.scrollbackLines, s.cursor.row, s.cursor.col)

theorem Alike.view_eq {s s' : Screen} (h : s.Alike s') : s.view = s'.view := by
  rw [view, view, h.screenLines_eq, h.scrollbackLines_eq, h.cursor_eq]

/-- A screen as a snapshot keeps it: the grid shows the same text, laid out from the left. -/
def kept (s : Screen) : Screen :=
  { s with
    lines := s.lines.map fun row => Row.lay s.size.cols row.text
    cursor.wrapPending := false
    savedCursor := none
    modes := {}
    margins := fullMargins s.size }

/-- There is nothing about a screen that a snapshot does not keep. -/
structure Settled (s : Screen) : Prop where
  lay_text : ∀ row ∈ s.lines, Row.lay s.size.cols row.text = row
  wrapPending : s.cursor.wrapPending = false
  savedCursor : s.savedCursor = none
  autoWrap : s.modes.autoWrap = true
  lineFeedNewLine : s.modes.lineFeedNewLine = false
  margins : s.margins = fullMargins s.size

variable {s s' : Screen}

theorem Settled.kept_alike (h : s.Settled) : s.kept.Alike s where
  visible_eq := by
    have hlines : s.lines.map (fun row => Row.lay s.size.cols row.text) = s.lines :=
      (Array.map_congr_left h.lay_text).trans (Array.map_id _)
    have hcursor : ({ s.cursor with wrapPending := false } : Cursor) = s.cursor := by
      rw [← h.wrapPending]
    have hmodes : ({ s.modes with applicationCursor := false } : Modes) = {} := by
      rw [← h.autoWrap, ← h.lineFeedNewLine]
    simp only [visible, kept, hlines, hcursor, hmodes, h.savedCursor, h.margins]
  scrollbackLines_eq := rfl

/-- A replay has what a snapshot keeps. -/
theorem IsReplay.alike_kept (h : s'.IsReplay s) {z : Size} (hs : s.Sound z) : s'.Alike s.kept where
  visible_eq := by
    have hlines : s'.lines = s.lines.map fun row => Row.lay s.size.cols row.text := by
      apply Array.toList_inj.1
      rw [h.lines, Array.toList_map, screenLines, List.map_map]
      rfl
    simp only [visible, kept, hlines, h.size, h.cursor, h.savedCursor, h.modes, h.margins]
  scrollbackLines_eq := h.scrollbackLines_eq hs

/-- A blank screen is settled. -/
theorem settled_blank (z : Size) : (blank z).Settled where
  lay_text := by
    intro row hrow
    obtain ⟨-, rfl⟩ := Array.mem_replicate.1 hrow
    have hlay := @Row.lay_text_lay z.atLeastOne.cols [] (by simp [Row.typed])
    rwa [Row.lay_nil] at hlay
  wrapPending := rfl
  savedCursor := rfl
  autoWrap := rfl
  lineFeedNewLine := rfl
  margins := rfl

end Screen

namespace Surface

/-- A surface as a snapshot keeps it. -/
def kept (s : Surface) : Surface := { screen := s.screen.kept, decoder := .idle }

/-- Nothing is unfinished, and there is nothing about the screen that a snapshot does not keep. -/
structure Settled (s : Surface) : Prop where
  screen : s.screen.Settled
  decoder : s.decoder = .idle

theorem Settled.kept_alike {s : Surface} (h : s.Settled) : s.kept.Alike s :=
  ⟨h.screen.kept_alike, h.decoder.symm⟩

/-- What is restored at the same size is what a snapshot keeps. -/
theorem restored_alike_kept {s : Surface} {z : Size} (hs : s.screen.Sound z.atLeastOne)
    (hf : s.screen.Fits) : (s.restored z).Alike s.kept := by
  obtain ⟨s', hwrite, hreplay⟩ := write_transcript hs hf
  have hnew : new s.screen.size = new z := by
    have hpos := z.atLeastOne_pos
    simp only [new, Screen.blank, hs.size_eq, Size.atLeastOne_eq hpos.1 hpos.2]
  rw [restored_of_eq hs.size_eq, ← hnew, transcript, hwrite]
  exact ⟨hreplay.alike_kept hs, rfl⟩

end Surface

namespace Host

/-- A session renders a history and saves a snapshot; more output comes, and a session of the same
size loads.  It goes on from what the snapshot keeps, so that it shows what the first session shows
if there was nothing else to keep. -/
theorem reload_at_same_size {id : Text} {config : Config} {b : Backend} (hf : b.failing = [])
    (hs : b.snapshot? id config.snapshots.kind = none) {z : Size} (hz : z.IsShort)
    (steps : List HostStep) (ht : steps.any HostStep.truncates = false)
    (hr : steps.any HostStep.resizes = false) (tail : List UInt8) (now : Nat) :
    let h := (start id (Surface.new z) config b).run steps
    let rendered := ((Surface.new z).write h.log).1
    h.CaughtUp → rendered.screen.Fits →
      let reloaded := h.reload (Surface.new z) config tail now
      let live := ((h.step (.log (.append tail))).step .processEvents).session
      h.session.surface = some rendered ∧ reloaded.isLoaded = true ∧
        ∃ s s', reloaded.surface = some s ∧ live.surface = some s' ∧
          s.screen.view = (rendered.kept.write tail).1.screen.view ∧
          (rendered.Settled → s.screen.view = s'.screen.view) := by
  intro h rendered hc hfits reloaded live
  obtain ⟨hloaded, shown, hsurface, hshown⟩ := exists_reload hf hs z z steps ht hr tail now hc
  have hsound : rendered.screen.Sound z.atLeastOne :=
    Surface.sound_write (Screen.sound_blank hz) h.log
  have halike : shown.Alike rendered.kept := by
    rcases hshown with ⟨hempty, rfl⟩ | rfl
    · have hblank : rendered = Surface.new z := by
        change ((Surface.new z).write h.log).1 = _
        rw [show h.log = [] from hempty]
        rfl
      rw [hblank]
      exact (Surface.Settled.kept_alike ⟨Screen.settled_blank z, rfl⟩).symm
    · exact Surface.restored_alike_kept hsound hfits
  have hafter := (halike.write tail).1
  have hlive := surface_live hf hs z steps ht hr tail hc
  refine ⟨surface_rendered hf hs z steps ht hr hc, hloaded, _, _, hsurface, hlive,
    hafter.screen.view_eq, fun hsettled => ?_⟩
  exact ((halike.trans hsettled.kept_alike).write tail).1.screen.view_eq

/-- Two lines, and a character that comes after the second. -/
theorem reload_at_same_size_abc :
    let steps : List HostStep := [.log (.append [0x61, 0x0D, 0x0A, 0x62]), .load 0 []]
    let h := (start [] (Surface.new ⟨2, 3⟩) {} {}).run steps
    ∃ s s', (h.reload (Surface.new ⟨2, 3⟩) {} [0x63] 0).surface = some s ∧
      ((h.step (.log (.append [0x63]))).step .processEvents).session.surface = some s' ∧
      s'.screen.view = ([['a'], ['b', 'c']], [], 1, 2) ∧ s.screen.view = s'.screen.view := by
  intro steps h
  have hc : h.session.isLoaded = true ∧ h.waiting = [] := by decide
  have hlog : h.log = [0x61, 0x0D, 0x0A, 0x62] := by decide
  have hfits : ((Surface.new ⟨2, 3⟩).write h.log).1.screen.Fits := by
    rw [hlog]
    have hall : (((Surface.new ⟨2, 3⟩).write [0x61, 0x0D, 0x0A, 0x62]).1.screen.scrollbackLines ++
        ((Surface.new ⟨2, 3⟩).write [0x61, 0x0D, 0x0A, 0x62]).1.screen.screenLines).all
          (·.all (charWidth · ≤ 2)) = true := by decide
    exact ⟨by decide, by simpa only [List.all_eq_true, decide_eq_true_eq] using hall⟩
  have hsettled : ((Surface.new ⟨2, 3⟩).write h.log).1.Settled := by
    rw [hlog]
    exact ⟨⟨by decide, by decide, by decide, by decide, by decide, by decide⟩, by decide⟩
  obtain ⟨-, -, s, s', hs, hs', -, hview⟩ := @reload_at_same_size [] {} {} rfl rfl
    ⟨2, 3⟩ ⟨by decide, by decide⟩ steps rfl rfl [0x63] 0 hc hfits
  refine ⟨s, s', hs, hs', ?_, hview hsettled⟩
  have hlive : ((h.step (.log (.append [0x63]))).step .processEvents).session.surface.map
      (fun s : Surface => s.screen.view) = some ([['a'], ['b', 'c']], [], 1, 2) := by decide +kernel
  rw [hs'] at hlive
  exact Option.some.inj hlive

/-- A session that loads from a snapshot taken after a history shows something else after more
output than the session that goes on. -/
def ReloadDiffers (z : Size) (history tail : List UInt8) : Prop :=
  let h := (start [] (Surface.new z) {} {}).run [.log (.append history), .load 0 []]
  let reloaded := h.reload (Surface.new z) {} tail 0
  let live := ((h.step (.log (.append tail))).step .processEvents).session
  reloaded.isLoaded = true ∧ live.isLoaded = true ∧
    reloaded.surface.map (fun s : Surface => s.screen.view) ≠
      live.surface.map (fun s : Surface => s.screen.view)

instance (z : Size) (history tail : List UInt8) : Decidable (ReloadDiffers z history tail) :=
  inferInstanceAs (Decidable (_ ∧ _ ∧ _))

/-- Whatever a snapshot does not keep may make a difference. -/
theorem reload_unlike_live :
    let text (s : String) := Utf8.encode s.toList
    -- a wrap that waits
    ReloadDiffers ⟨2, 2⟩ (text "ab") (text "c") ∧
    -- an unfinished control sequence
    ReloadDiffers ⟨1, 4⟩ (text "\x1b[") (text "C") ∧
    -- an unfinished character
    ReloadDiffers ⟨1, 4⟩ [0xC3] [0xA9] ∧
    -- a saved cursor
    ReloadDiffers ⟨1, 4⟩ (text "\x1b7a") (text "\x1b8b") ∧
    -- lines that are not wrapped
    ReloadDiffers ⟨1, 2⟩ (text "\x1b[?7l") (text "abc") ∧
    -- line feeds that return to the first column
    ReloadDiffers ⟨2, 2⟩ (text "\x1b[20ha") (text "\nb") ∧
    -- margins
    ReloadDiffers ⟨3, 2⟩ (text "\x1b[2;3r") (text "\nb\nc\nd") ∧
    -- the right half of a wide character whose left half was deleted
    ReloadDiffers ⟨1, 4⟩ (text "あb\r\x1b[P") (text "\rx") ∧
    -- the left half of a wide character before another character, which does not fit
    ReloadDiffers ⟨2, 2⟩ (text "あ\x1b[1;2H\x1b[@c") [] ∧
    -- a character that takes three columns
    ReloadDiffers ⟨1, 8⟩ (text "\u17d8b") [] := by
  dsimp only
  decide +kernel

end Host

end TermSession
