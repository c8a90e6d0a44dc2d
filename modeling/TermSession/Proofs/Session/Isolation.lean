import TermSession.Proofs.Session.Hearing
import TermSession.Proofs.Terminal.Cleared

/-!
# After a restart of the log

A session that is loaded hears that its log starts anew.  From then on its display is cleared and
written the new log, in whatever chunks it comes and whatever else happens.

* `Rendering.Renews`: the restart still waits, or the display was cleared and follows the new log;
* `Host.Renews`, `Host.lasting_renews`: the same of a session in a run without resizing;
* `Host.fresh_after_restart`: once it has taken all notifications the display shows what a fresh one
  does, put into the modes that the old log left;
* `Host.unlike_new_after_restart`: the modes matter.
-/

namespace TermSession

open Display

/-- May the event bring about a new size? -/
def HostEvent.resizes : HostEvent → Bool
  | .call c => c.resizes
  | .backend _ => false

variable {σ : Type} [Display σ]

/-! ### Renderings -/

namespace Rendering

/-- A stream has to do with a log that started anew.  Either it has not heard of it, and its display
is as it was; or it has had the display cleared, and follows the new log. -/
inductive Renews (display : σ) (r : Rendering σ) : List LogEvent → List UInt8 → Prop
  | waits {queue : List LogEvent} {log : List UInt8} (hsurface : r.surface = display)
      (hu : Unbroken queue) (hl : Leads [] queue log) : Renews display r (.truncate 0 :: queue) log
  | follows {queue : List LogEvent} {log seen : List UInt8} {calls : List DisplayCall}
      (hsurface : r.surface = performAll (Display.clear display) calls)
      (hw : ∀ c ∈ calls, c.isWrite = true) (hu : Unbroken queue)
      (hf : r.output.Follows .whole (DisplayCall.written calls) seen queue log) :
      Renews display r queue log

namespace Renews

variable {display : σ} {r r' : Rendering σ} {queue : List LogEvent} {log : List UInt8}

/-- The new log grows. -/
theorem grow (h : r.Renews display queue log) (data : List UInt8) :
    r.Renews display (queue ++ [.append log.length data]) (log ++ data) := by
  have hlast {queue : List LogEvent} (hu : Unbroken queue) :
      Unbroken (queue ++ [.append log.length data]) := by
    intro e he
    rcases List.mem_append.1 he with he | he
    · exact hu e he
    · rw [List.mem_singleton.1 he]
      rfl
  cases h with
  | waits hsurface hu hl => exact .waits hsurface (hlast hu) (hl.append_last data)
  | follows hsurface hw hu hf => exact .follows hsurface hw (hlast hu) (hf.log_append data)

/-- How much was rendered since the last snapshot has nothing to do with it. -/
theorem congr (h : r.Renews display queue log) (hsurface : r'.surface = r.surface)
    (houtput : r'.output.resetSinceSnapshot = r.output.resetSinceSnapshot) :
    r'.Renews display queue log := by
  cases h with
  | waits hs hu hl => exact .waits (hsurface.trans hs) hu hl
  | @follows _ _ seen calls hs hw hu hf =>
    have hreset : r'.output.resetSinceSnapshot.Follows .whole (DisplayCall.written calls) seen queue
        log := by
      rw [houtput]
      exact ⟨hf.leads, hf.untouched, hf.held_le, hf.held_nil, hf.caughtUp⟩
    exact .follows (hsurface.trans hs) hw hu ⟨hreset.leads, hreset.untouched, hreset.held_le,
      hreset.held_nil, hreset.caughtUp⟩

/-- All that waits is handled. -/
theorem handleAll (h : r.Renews display queue log) (hloaded : r.output.loaded = true) :
    (r.handleAll queue).Renews display [] log ∧
      (r.handleAll queue).output.loaded = true := by
  cases h with
  | @waits queue _ hsurface hu hl =>
    -- The restart is handled first: the display is cleared, and nothing of the new log is read.
    let cleared := (r.handle (.truncate 0)).1
    have hf : cleared.output.Follows .whole (DisplayCall.written []) [] queue log :=
      { leads := hl
        untouched := fun hl => absurd (hloaded.symm.trans hl) (by decide)
        held_le := fun _ c hc => absurd hc List.not_mem_nil
        held_nil := fun _ => rfl
        caughtUp := fun _ _ => ⟨Nat.le_refl 0, Nat.zero_le _, rfl⟩ }
    obtain ⟨calls, hs, hf', hloaded', hmoves⟩ := follows_handleAll hf
    refine ⟨.follows ?_ (hmoves hu).isWrite (by simp [Unbroken]) hf', hloaded'.trans hloaded⟩
    rw [← hsurface]
    exact hs
  | follows hsurface hw hu hf =>
    obtain ⟨calls', hs, hf', hloaded', hmoves⟩ := follows_handleAll hf
    refine ⟨.follows ?_ ?_ (by simp [Unbroken]) hf', hloaded'.trans hloaded⟩
    · rw [performAll_append, ← hsurface]
      exact hs
    · intro c hc
      rcases List.mem_append.1 hc with hc | hc
      · exact hw c hc
      · exact (hmoves hu).isWrite c hc

/-- When nothing waits, the display was cleared and written the new log. -/
theorem exists_calls (h : r.Renews display [] log) (hloaded : r.output.loaded = true) :
    ∃ calls, r.surface = performAll (Display.clear display) calls ∧
      (∀ c ∈ calls, c.isWrite = true) ∧ DisplayCall.written calls = log := by
  cases h with
  | @follows _ _ _ calls hsurface hw hu hf =>
    obtain rfl := hf.leads.eq_of_nil
    obtain ⟨hle, -, hwhole⟩ := hf.caughtUp hloaded hu
    have hwritten : DisplayCall.written calls = List.take r.output.position _ := hwhole
    exact ⟨calls, hsurface, hw, by rw [hwritten, List.take_of_length_le hle]⟩

end Renews

end Rendering

/-! ### Sessions -/

namespace Host

/-- The session is loaded and live, and no size is asked for.  Its log started anew when its display
was `display`. -/
structure Renews (id : Text) (receiver : Receiver) (display : σ) (h : Host σ)
    (queue : List LogEvent) : Prop extends h.Hears id receiver queue where
  loaded : h.session.output.loaded = true
  steady : h.session.resizing.debouncer.pending = none
  renews : ∀ surface ∈ h.session.surface,
    Rendering.Renews display ⟨h.session.output, surface⟩ queue (h.backend.log id).toList

variable {id : Text} {receiver : Receiver} {display : σ} {h : Host σ} {queue : List LogEvent}

/-- A session that has taken all notifications has to do with a new log when the log starts anew. -/
theorem Hears.renews_truncate (l : h.Hears id receiver []) (hs : h.session.surface = some display)
    (hloaded : h.session.isLoaded = true) (hsteady : h.session.resizing.debouncer.pending = none) :
    Renews id receiver display { h with backend := h.backend.undergo (.truncate id) }
      [.truncate 0] := by
  have hevent : (BackendChange.truncate id).event? h.backend id = some (.truncate 0) := if_pos rfl
  have hears := l.undergo (.truncate id)
  rw [hevent] at hears
  refine { hears with loaded := hloaded, steady := hsteady, renews := fun surface hsurface => ?_ }
  have hlog : ((h.backend.undergo (.truncate id)).log id).toList = [] :=
    Backend.log_truncate h.backend id
  rw [hlog]
  exact .waits (Option.some.inj (hsurface.symm.trans hs)) (by simp [Unbroken]) (.refl [])

namespace Renews

theorem undergo (n : Renews id receiver display h queue) {change : BackendChange}
    (hc : change.IsNotified id) :
    ∃ queue', Renews id receiver display { h with backend := h.backend.undergo change } queue' := by
  refine ⟨_, { n.toHears.undergo change with
    loaded := n.loaded, steady := n.steady, renews := fun surface hs => ?_ }⟩
  rcases hc.cases h.backend with ⟨data, hlog, hevent⟩ | ⟨hlog, hevent⟩
  · rw [hlog, hevent]
    exact (n.renews surface hs).grow data
  · rw [hlog, hevent, Option.toList_none, List.append_nil]
    exact n.renews surface hs

theorem aside (n : Renews id receiver display h queue) {c : SessionCall} (hc : c.isAside = true)
    (hr : c.resizes = false) : Renews id receiver display (h.perform c) queue := by
  have hsession := h.session.resized_perform h.backend hc
  obtain ⟨hsurface, hpending⟩ := h.session.steady_perform n.steady h.backend hc hr
  exact
    { n.toHears.aside hc with
      loaded := hsession.loaded_eq.trans n.loaded
      steady := hpending
      renews := by
        intro surface hs
        rw [h.log_aside hc]
        exact (n.renews surface (hsurface.symm.trans hs)).congr rfl hsession.output_eq }

theorem processEvents (n : Renews id receiver display h queue) :
    Renews id receiver display (h.perform .processEvents) [] := by
  obtain ⟨surface, hs⟩ := Option.isSome_iff_exists.1 n.shown
  obtain ⟨hsession, hears⟩ := n.toHears.processEvents hs
  obtain ⟨hrenews, hloaded⟩ := (n.renews surface hs).handleAll n.loaded
  exact
    { hears with
      loaded := by rw [hsession]; exact hloaded
      steady := by rw [hsession]; exact n.steady
      renews := by
        rw [h.log_processEvents, hsession]
        rintro surface' hs'
        obtain rfl := Option.some.inj hs'
        exact hrenews }

end Renews

theorem lasting_renews (id : Text) (receiver : Receiver) (display : σ) :
    Lasting (·.IsNotified id) (·.resizes = false)
      (fun h => ∃ queue, Renews id receiver display h queue) where
  live _ := fun ⟨_, n⟩ => n.live
  undergo _ _ hc := fun ⟨_, n⟩ => n.undergo hc
  aside _ _ hr hc := fun ⟨queue, n⟩ => ⟨queue, n.aside hc hr⟩
  processEvents _ := fun ⟨_, n⟩ => ⟨[], n.processEvents⟩
  loadHistory h now := by
    -- A session that is loaded has nothing to load.
    rintro ⟨queue, n⟩
    have hloaded : h.session.isLoaded = true := n.loaded
    rw [loadHistory_loaded hloaded]
    exact ⟨queue, n⟩

/-- A session has rendered a history, with nothing unfinished at its end, when its log starts anew.
Once it has taken all notifications its display shows what a fresh display of the same size does
that is put into the modes which the history left, and written the new log alone; if these are the
modes of a fresh display, just what a fresh display does. -/
theorem fresh_after_restart (id : Text) (size : Size) (config : Config) (b : Backend)
    (before : List HostEvent) {after : List HostEvent} (hr : ∀ e ∈ after, e.resizes = false)
    (he : ∀ e ∈ after, ∀ change ∈ e.changes, change.IsNotified id) :
    let h := (start id (Surface.new size) config b).advanceAll before
    let h' := (h.advance (.backend (.truncate id))).advanceAll after
    h.CaughtUp → h.session.resizing.debouncer.pending = none → h'.session.disposed = false →
    h'.waiting = [] → ∀ s ∈ h.session.surface, s.decoder = .idle →
      ∃ s' ∈ h'.session.surface,
        let shown (fresh : Surface) := (fresh.write (h'.backend.log id).toList).1.screen.picture
        s'.screen.picture = shown (Surface.fresh s.size s.screen.modes) ∧
        (s.screen.modes.autoWrap = true → s.screen.modes.lineFeedNewLine = false →
          s'.screen.picture = shown (Surface.new s.size)) := by
  intro h h' hcaught hsteady hlive hwaiting s hs hidle
  -- The session hears, for it has a display.
  obtain ⟨queue, l⟩ : ∃ queue, h.Hears id (b.subscribe id).1 queue := by
    rcases exists_hears_advanceAll id (Surface.new size) config b before with o | hears
    · exact absurd (hs.symm.trans o.released) (Option.some_ne_none s)
    · exact hears
  obtain rfl : queue = [] := l.waiting_eq.symm.trans hcaught.2
  obtain ⟨queue', n'⟩ : ∃ queue', Renews id (b.subscribe id).1 s h' queue' := by
    have n := l.renews_truncate hs hcaught.1 hsteady
    rcases (lasting_renews id _ s).advanceAll he (fun e h c hc => by subst hc; exact hr _ h) ⟨_, n⟩
      with o | n'
    · exact absurd (hlive.symm.trans o.disposed) (by decide)
    · exact n'
  obtain rfl : queue' = [] := n'.waiting_eq.symm.trans hwaiting
  obtain ⟨s', hs'⟩ := Option.isSome_iff_exists.1 n'.shown
  obtain ⟨calls, hcalls, hw, hwritten⟩ := (n'.renews s' hs').exists_calls n'.loaded
  have hsurface : s' = (s.clear.write (h'.backend.log id).toList).1 := by
    rw [← hwritten, ← Surface.performAll_of_isWrite _ _ hw]
    exact hcalls
  -- The display has a size that a fresh one can have.
  have hsize : s.size.atLeastOne = s.size := by
    rcases exists_calls_advanceAll (start id (Surface.new size) config b) before with
      hnone | ⟨calls, hcalls⟩
    · exact absurd (hs.symm.trans hnone) (Option.some_ne_none s)
    · obtain rfl : performAll (Surface.new size) calls = s :=
        Option.some.inj (hcalls.symm.trans hs)
      exact Surface.atLeastOne_size_performAll size calls
  have halike := Surface.clear_alike_fresh hsize hidle
  refine ⟨s', hs', ?_, fun hwrap hnewLine => ?_⟩
  · rw [hsurface]
    exact (halike.write _).1.screen.picture_eq
  · rw [hsurface]
    have hnew := halike.trans (Surface.fresh_alike_new s.size hwrap hnewLine)
    exact (hnew.write _).1.screen.picture_eq

/-- The history leaves margins, a saved cursor, another title and rows above the grid, and the new
log comes in three chunks while the session is called otherwise. -/
theorem fresh_after_restart_xyz :
    let before : List HostEvent :=
      [.backend (.append [] (Utf8.encode "a\nb\nc\n\x1b]0;t\x07\x1b[2;3r\x1b[2;2H\x1b7".toList)),
        .call (.load 0 []), .call .processEvents]
    let after : List HostEvent :=
      [.backend (.append [] (Utf8.encode "x\n\n".toList)), .call .processEvents, .call .flush,
        .backend (.append [] (Utf8.encode "y\n".toList)), .call (.load 1 [.fail .saveCache]),
        .backend (.append [] (Utf8.encode "\x1b8z".toList)), .call .processEvents]
    let h := (start [] (Surface.new ⟨3, 2⟩) {} {}).advanceAll before
    let h' := (h.advance (.backend (.truncate []))).advanceAll after
    ∃ s', h'.session.surface = some s' ∧
      s'.screen.picture =
        ((Surface.new ⟨3, 2⟩).write (Utf8.encode "x\n\ny\n\x1b8z".toList)).1.screen.picture := by
  intro before after
  have hr : ∀ e ∈ after, e.resizes = false := by decide
  have he : ∀ e ∈ after, ∀ change ∈ e.changes, change.IsNotified [] := by decide
  have hfresh := fresh_after_restart [] ⟨3, 2⟩ {} {} before hr he
  dsimp only at hfresh ⊢
  generalize hh : (start [] (Surface.new ⟨3, 2⟩) {} {}).advanceAll before = h at hfresh ⊢
  generalize hh' : (h.advance (.backend (.truncate []))).advanceAll after = h' at hfresh ⊢
  have hcaught : h.session.isLoaded = true ∧ h.waiting = [] := by
    rw [← hh]
    decide
  have hsteady : h.session.resizing.debouncer.pending = none := by
    rw [← hh]
    decide
  have hleft : h.session.surface.map (fun s : Surface => (s.decoder, s.size, s.screen.modes)) =
      some (.idle, ⟨3, 2⟩, {}) := by
    rw [← hh]
    with_unfolding_all decide
  have hheard : h'.session.disposed = false ∧ h'.waiting = [] ∧
      (h'.backend.log []).toList = Utf8.encode "x\n\ny\n\x1b8z".toList := by
    rw [← hh', ← hh]
    decide
  obtain ⟨hlive, hwaiting, hlog⟩ := hheard
  obtain ⟨s, hs, hstate⟩ := Option.map_eq_some_iff.1 hleft
  obtain ⟨hidle, hsize, hmodes⟩ : s.decoder = .idle ∧ s.size = ⟨3, 2⟩ ∧ s.screen.modes = {} := by
    simpa using hstate
  obtain ⟨s', hs', -, hnew⟩ := hfresh hcaught hsteady hlive hwaiting s hs hidle
  have hpicture := hnew (by rw [hmodes]) (by rw [hmodes])
  rw [hsize, hlog] at hpicture
  exact ⟨s', hs', hpicture⟩

/-- The modes that the history leaves do make a difference.  It switches wrapping off, and the new
log is longer than a row. -/
theorem unlike_new_after_restart :
    let h := (start [] (Surface.new ⟨1, 2⟩) {} {}).advanceAll
      [.call (.load 0 []), .backend (.append [] (Utf8.encode "\x1b[?7l".toList)),
        .call .processEvents]
    let h' := h.advanceAll
      [.backend (.truncate []), .backend (.append [] (Utf8.encode "abc".toList)),
        .call .processEvents]
    (h.session.isLoaded = true ∧ h.waiting = []) ∧
      (h'.session.isLoaded = true ∧ h'.waiting = []) ∧
      (h'.backend.log []).toList = Utf8.encode "abc".toList ∧
      h'.session.surface.map (fun s : Surface => s.screen.picture) ≠
        some ((Surface.new ⟨1, 2⟩).write (Utf8.encode "abc".toList)).1.screen.picture := by
  decide +kernel

end Host

end TermSession
