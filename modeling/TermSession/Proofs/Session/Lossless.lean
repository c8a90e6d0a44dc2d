import TermSession.Proofs.Session.Host

/-!
# Output is rendered losslessly

However changes of the log and steps of its session are interleaved: whenever the session is
loaded and no notification waits, its display was written exactly the log.
-/

namespace TermSession

open Host

/-- Whenever a session has caught up, the bytes written to its display since it was made or last
cleared are the log, and the session's position is at the end of the log.  If the log was never
restarted, just as many bytes were rendered, which is what the offset counts; and a surface that was
not resized either is the one that the whole log makes when it is written at once. -/
theorem written_eq_log {id : Text} {config : Config} {b : Backend} (hf : b.failing = [])
    (hs : b.snapshot? id config.snapshots.kind = none) (steps : List HostStep) :
    (∀ {σ : Type} [Display σ] (display : σ),
      let h := (start id ({ display } : Recorder σ) config b).run steps
      h.CaughtUp →
        (∃ r, h.session.surface = some r ∧ r.written = h.log) ∧
        h.session.output.position = h.log.length ∧
        (steps.any HostStep.truncates = false →
          h.session.output.rendered = h.log.length ∧
          h.session.output.offset = h.log.length % UInt64.size)) ∧
    (∀ size : Size,
      let h := (start id ({ display := Surface.new size } : Recorder Surface) config b).run steps
      h.CaughtUp → steps.any HostStep.truncates = false →
        ∃ r, h.session.surface = some r ∧
          (steps.any HostStep.resizes = false → r.resized = false) ∧
          (r.resized = false → r.display = ((Surface.new size).write h.log).1)) := by
  constructor
  · intro σ _ display h hc
    obtain ⟨calls, queue, seen, t⟩ :=
      exists_tracks_run ({ display } : Recorder σ) hf hs steps
    obtain ⟨hw, hp⟩ := t.caughtUp hc
    refine ⟨⟨_, t.surface, ?_⟩, hp, fun ht => ?_⟩
    · rw [Recorder.performAll_recorder]
      exact hw
    · have hrendered := (t.level ht).trans hp
      exact ⟨hrendered, OutputStream.offset_eq hrendered⟩
  · intro size h hc ht
    obtain ⟨calls, queue, seen, t⟩ :=
      exists_tracks_run ({ display := Surface.new size } : Recorder Surface) hf hs steps
    refine ⟨_, t.surface, ?_⟩
    rw [Recorder.performAll_recorder]
    refine ⟨fun hr => DisplayCall.any_isResize_of_isWrite (t.isWrite ht hr), fun hr => ?_⟩
    rw [← (t.caughtUp hc).1]
    exact Surface.performAll_of_isWrite _ _ (DisplayCall.isWrite_of_mem (t.uncleared ht) hr)

/-- Output that comes before loading, while the history is fetched, and afterwards. -/
theorem written_eq_log_abc :
    let steps : List HostStep :=
      [.log (.append [0x61]), .load 0 [.append [0x62]], .log (.append [0x63]), .processEvents]
    let h := (start [] ({ display := Surface.new ⟨2, 2⟩ } : Recorder Surface) {} {}).run steps
    h.CaughtUp ∧
      (∃ r, h.session.surface = some r ∧ r.written = [0x61, 0x62, 0x63]) ∧
      h.session.output.offset = 3 ∧
      ∃ r, h.session.surface = some r ∧
        r.display = ((Surface.new ⟨2, 2⟩).write [0x61, 0x62, 0x63]).1 := by
  intro steps h
  have hc : h.CaughtUp := ⟨rfl, rfl⟩
  have hlog : h.log = [0x61, 0x62, 0x63] := rfl
  have hlossless := @written_eq_log [] {} {} rfl rfl steps
  obtain ⟨hw, -, ho⟩ := hlossless.1 (Surface.new ⟨2, 2⟩) hc
  obtain ⟨r, hr, hn, hd⟩ := hlossless.2 ⟨2, 2⟩ hc rfl
  refine ⟨hc, ?_, ?_, r, hr, ?_⟩
  · rw [← hlog]
    exact hw
  · exact (ho rfl).2
  · rw [← hlog]
    exact hd (hn rfl)

end TermSession
