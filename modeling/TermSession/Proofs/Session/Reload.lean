import TermSession.Proofs.Session.Host

/-!
# Loading from a snapshot

A session saves a snapshot, more output comes, and a new session loads.  It shows what the snapshot
restores, with the output that came afterwards written to it.

* `Host.flush`, `Host.reload`;
* `Host.Tracks.reload`: what the new session shows;
* `Surface.restored`, `Host.exists_reload`: the same for surfaces;
* `Host.surface_rendered`, `Host.surface_live`: what the first session shows, and goes on to show.
-/

namespace TermSession

open Display

variable {σ : Type} [Display σ]

namespace Rendering

variable {r : Rendering σ} {s : Snapshot}

/-- A snapshot taken at the same size is written as it is. -/
theorem surface_applySnapshot_of_eq (h : s.size = some (Display.size r.surface)) :
    (r.applySnapshot s).surface = (Display.write r.surface (Utf8.encode s.data)).1 := by
  have hfilter : s.size.filter (fun z => z.isPositive && z ≠ Display.size r.surface) = none := by
    simp [h]
  simp only [applySnapshot, hfilter]

/-- A snapshot taken at another size is written at that size. -/
theorem surface_applySnapshot_of_ne {z : Size} (h : s.size = some z) (hz : z.isPositive = true)
    (hne : z ≠ Display.size r.surface) :
    (r.applySnapshot s).surface =
      Display.resize (Display.write (Display.resize r.surface z) (Utf8.encode s.data)).1
        (Display.size r.surface) := by
  have hfilter : s.size.filter (fun z => z.isPositive && z ≠ Display.size r.surface) = some z := by
    simp [h, hz, hne]
  simp only [applySnapshot, hfilter]

end Rendering

/-- Loading renders what the log has beyond the position that is restored, which may be nothing. -/
theorem Rendering.surface_load {r r₀ : Rendering σ} {b : Backend} {session kind : Text}
    (hl : r.output.loaded = false) (hf : b.failing = []) (hr : r.restored b session kind = r₀)
    (hh : r₀.output.held = []) :
    (r.load b session kind).1.surface =
      performAll r₀.surface (callsFor ((b.log session).toList.drop r₀.output.position)) := by
  have hmin (log : OutputLog) (p : Nat) :
      log.toList.drop (min p log.size) = log.toList.drop p := by
    rcases Nat.le_total p log.size with hp | hp
    · rw [Nat.min_eq_left hp]
    · rw [Nat.min_eq_right hp, ← OutputLog.length_toList, List.drop_length,
        List.drop_eq_nil_of_le (by rwa [OutputLog.length_toList])]
  unfold load
  rw [if_neg (by simp [hl])]
  simp only [hr]
  cases hlog : b.logs.find? session with
  | none =>
    simp [Backend.fetchLog, Backend.fetchFile, Backend.fails, hf, hlog, Backend.log, hh,
      appendAll, callsFor]
  | some log =>
    simp [Backend.fetchLog, Backend.fetchFile, Backend.fails, hf, hlog, Backend.log, hh,
      appendAll, applyTail, render_fst, OutputLog.since, hmin]

/-- Loading from a position in the log renders what comes after it. -/
theorem Rendering.load_tail {r r₀ : Rendering σ} {b : Backend} {session kind : Text}
    {log tail : List UInt8} (hl : r.output.loaded = false) (hf : b.failing = [])
    (hr : r.restored b session kind = r₀) (hlog : (b.log session).toList = log ++ tail)
    (hp : r₀.output.position = log.length) (hh : r₀.output.held = []) :
    (r.load b session kind).1.output.loaded = true ∧
      (r.load b session kind).1.surface = performAll r₀.surface (callsFor tail) := by
  obtain ⟨-, -, hloaded, -⟩ := exists_calls_load hl hr
  exact ⟨hloaded, by rw [surface_load hl hf hr hh, hlog, hp, List.drop_left]⟩

/-- A new session that loads has taken no notifications, and renders what the backend holds. -/
theorem Session.load_new (id : Text) (display : σ) (config : Config) (b : Backend) (now : Nat) :
    ∃ b' : Backend, b'.logs = b.logs ∧ b'.snapshots = b.snapshots ∧ b'.failing = b.failing ∧
      ((Session.new id display config b).1.load (Session.new id display config b).2 now).1.output =
        (Rendering.load ⟨{}, display⟩ b' id config.snapshots.kind).1.output ∧
      ((Session.new id display config b).1.load (Session.new id display config b).2 now).1.surface =
        some (Rendering.load ⟨{}, display⟩ b' id config.snapshots.kind).1.surface := by
  have hwaiting : (b.subscribe id).2.waiting (b.subscribe id).1 = [] :=
    (Backend.delivers_subscribe b id).waiting
  refine ⟨((b.subscribe id).2.receiveAll (b.subscribe id).1).2, rfl, rfl, rfl, ?_⟩
  simp [Session.load, Session.processEvents, Session.loadHistory, Session.new, Session.isLoaded,
    Session.withRendering, Backend.receiveAll, hwaiting]

namespace Host

/-- The session saves a snapshot. -/
def flush (h : Host σ) : Host σ :=
  let (_, session, backend) := h.session.flush h.backend
  { session, backend }

/-- The session saves a snapshot, more output comes, and a new session of the same log loads. -/
def reload (h : Host σ) (display : σ) (config : Config) (tail : List UInt8) (now : Nat) :
    Session σ :=
  let b := h.flush.backend.append h.session.id tail
  let (session, b) := Session.new h.session.id display config b
  (session.load b now).1

variable {display : σ} {id : Text} {config : Config} {truncated resized : Bool} {h : Host σ}
  {receiver : Receiver} {calls : List DisplayCall} {queue : List LogEvent} {seen : List UInt8}

/-- Saving a snapshot keeps track of the log. -/
theorem Tracks.saveNow
    (t : Tracks display id config truncated resized h receiver calls queue seen) :
    Tracks display id config truncated resized h.flush receiver calls queue seen := by
  have hflush : h.flush =
      ⟨{ h.session.withRendering (h.session.timer.flush
          ⟨h.session.output, performAll display calls⟩ h.backend h.session.id true).2.1 with
          timer := h.session.timer },
        (h.session.timer.flush ⟨h.session.output, performAll display calls⟩ h.backend
          h.session.id true).2.2⟩ := by
    simp only [Host.flush, Session.flush, t.surface]
    rfl
  rw [hflush]
  exact t.flush true h.session.timer rfl

/-- Saving a snapshot leaves the log as it is, and the position in it. -/
theorem Tracks.flush_output
    (t : Tracks display id config truncated resized h receiver calls queue seen) :
    h.flush.backend.logs = h.backend.logs ∧
      h.flush.session.output.position = h.session.output.position := by
  unfold Host.flush
  rcases h.session.flush_cases t.healthy with hidle | ⟨surface, -, -, hflush⟩
  · rw [hidle]
    exact ⟨rfl, rfl⟩
  · rw [hflush]
    exact ⟨rfl, rfl⟩

/-- After a snapshot nothing was rendered since. -/
theorem Tracks.sinceSnapshot_flush
    (t : Tracks display id config truncated resized h receiver calls queue seen)
    (hl : h.session.isLoaded = true) : h.flush.session.output.sinceSnapshot = 0 := by
  have hl : h.session.output.loaded = true := hl
  simp only [Host.flush, Session.flush, t.surface, SnapshotTimer.flush]
  split
  · rfl
  · rename_i hwants
    simp only [SnapshotTimer.wants, hl, Bool.true_and, Bool.or_eq_true, decide_eq_true_eq,
      not_or] at hwants
    simpa [Session.withRendering] using hwants.2

/-- The new session shows what the snapshot restores, and the output that came afterwards.  Without
any output before there may be no snapshot. -/
theorem Tracks.reload (t : Tracks display id config false false h receiver calls queue seen)
    (hc : h.CaughtUp) (hd : Display.transcript (performAll display calls) ≠ []) (fresh : σ)
    (tail : List UInt8) (now : Nat) :
    (h.reload fresh config tail now).isLoaded = true ∧
      ∃ shown, (h.reload fresh config tail now).surface =
          some (performAll shown (Rendering.callsFor tail)) ∧
        (calls = [] ∧ shown = fresh ∨
          shown = (Rendering.applySnapshot ⟨{}, fresh⟩
            (SnapshotTimer.snapshotOf ⟨h.session.output, performAll display calls⟩)).surface) := by
  have hposition := (t.caughtUp hc).2
  have t' := t.saveNow
  obtain ⟨hlogs, hp⟩ := t.flush_output
  have hsaved := t'.saved rfl rfl (t.sinceSnapshot_flush hc.1)
  -- What the new session finds: the snapshot, if there is one, and the log with the tail.
  obtain ⟨b, hlogs', hsnapshots, hfailing, houtput, hsurface⟩ :=
    Session.load_new h.session.id fresh config (h.flush.backend.append h.session.id tail) now
  have hf : b.failing = [] := hfailing.trans t'.healthy
  have hlog : (b.log id).toList = h.log ++ tail := by
    rw [Backend.log, hlogs', ← Backend.log, t.id_eq, Backend.log_append, Backend.log, hlogs, log,
      t.id_eq]
    rfl
  have hsnapshot : b.snapshot? id config.snapshots.kind =
      h.flush.backend.snapshot? id config.snapshots.kind := by
    rw [Backend.snapshot?, hsnapshots]
    rfl
  change (h.reload fresh config tail now).output = _ at houtput
  change (h.reload fresh config tail now).surface = _ at hsurface
  rw [t.id_eq] at houtput hsurface
  rw [Session.isLoaded, houtput, hsurface]
  rcases hsaved with ⟨hnone, rfl⟩ | hsome
  · have hempty : h.log.length = 0 := by rw [← (t.caughtUp hc).1]; rfl
    obtain ⟨hl, hs⟩ := Rendering.load_tail (r := ⟨{}, fresh⟩) rfl hf
      (Rendering.restored_of_no_snapshot hf (hsnapshot.trans hnone)) hlog hempty.symm rfl
    exact ⟨hl, fresh, congrArg some hs, .inl ⟨rfl, rfl⟩⟩
  · have hsnap : SnapshotTimer.snapshotOf ⟨h.flush.session.output, performAll display calls⟩ =
        SnapshotTimer.snapshotOf ⟨h.session.output, performAll display calls⟩ :=
      snapshotOf_congr rfl hp
    obtain ⟨hl, hs⟩ := Rendering.load_tail (r := ⟨{}, fresh⟩) rfl hf
      (Rendering.restored_of_snapshot rfl hf (hsnapshot.trans (hsome.trans (congrArg some hsnap)))
        hd) hlog hposition rfl
    exact ⟨hl, _, congrArg some hs, .inr rfl⟩

end Host

/-! ### Surfaces -/

namespace Surface

/-- What a fresh surface shows after a snapshot of another one. -/
def restored (s : Surface) (size : Size) : Surface :=
  (Rendering.applySnapshot ⟨{}, new size⟩ (SnapshotTimer.snapshotOf ⟨{}, s⟩)).surface

/-- A snapshot taken at the same size is written as it is. -/
theorem restored_of_eq {s : Surface} {size : Size} (h : s.size = size.atLeastOne) :
    s.restored size = ((new size).write (Utf8.encode s.transcript)).1 :=
  Rendering.surface_applySnapshot_of_eq (r := ⟨{}, new size⟩) (congrArg some h)

/-- A snapshot taken at another size is written at that size. -/
theorem restored_of_ne {s : Surface} {size : Size} (h : s.size ≠ size.atLeastOne)
    (hs : s.size.isPositive = true) :
    s.restored size =
      ((((new size).resize s.size).write (Utf8.encode s.transcript)).1).resize size.atLeastOne :=
  Rendering.surface_applySnapshot_of_ne (r := ⟨{}, new size⟩) rfl hs h

theorem transcript_ne_nil (s : Surface) : s.transcript ≠ [] := by
  simp [transcript, Screen.transcript, Screen.positionSequence]

end Surface

namespace Host

/-- A session that has caught up shows its log, if the log was never restarted and no size was asked
for. -/
theorem surface_rendered {id : Text} {config : Config} {b : Backend} (hf : b.failing = [])
    (hs : b.snapshot? id config.snapshots.kind = none) (z : Size) (steps : List HostStep)
    (ht : steps.any HostStep.truncates = false) (hr : steps.any HostStep.resizes = false) :
    let h := (start id (Surface.new z) config b).run steps
    h.CaughtUp → h.session.surface = some ((Surface.new z).write h.log).1 := by
  intro h hc
  obtain ⟨calls, queue, seen, t⟩ := exists_tracks_run (Surface.new z) hf hs steps
  rw [t.surface, Surface.performAll_of_isWrite _ _ (t.isWrite ht hr), (t.caughtUp hc).1]

/-- If it goes on, it shows what comes next, too. -/
theorem surface_live {id : Text} {config : Config} {b : Backend} (hf : b.failing = [])
    (hs : b.snapshot? id config.snapshots.kind = none) (z : Size) (steps : List HostStep)
    (ht : steps.any HostStep.truncates = false) (hr : steps.any HostStep.resizes = false)
    (tail : List UInt8) :
    let h := (start id (Surface.new z) config b).run steps
    h.CaughtUp →
      ((h.step (.log (.append tail))).step .processEvents).session.surface =
        some (((Surface.new z).write h.log).1.write tail).1 := by
  intro h hc
  obtain ⟨calls, queue, seen, t⟩ := exists_tracks_run (Surface.new z) hf hs steps
  obtain ⟨hc', hlog'⟩ := t.caughtUp_append hc tail
  -- It is a run with two more steps.
  have hrun : (start id (Surface.new z) config b).run
      (steps ++ [.log (.append tail), .processEvents]) =
        (h.step (.log (.append tail))).step .processEvents := by
    simp [run, h]
  have hlive := surface_rendered hf hs z (steps ++ [.log (.append tail), .processEvents])
    (by simpa [HostStep.truncates] using ht) (by simpa [HostStep.resizes] using hr)
    (by rw [hrun]; exact hc')
  rwa [hrun, hlog', Surface.write_append] at hlive

/-- If a snapshot is saved, a new session of any size restores it and shows what comes next.
Without any output before there may be no snapshot. -/
theorem exists_reload {id : Text} {config : Config} {b : Backend} (hf : b.failing = [])
    (hs : b.snapshot? id config.snapshots.kind = none) (z z' : Size) (steps : List HostStep)
    (ht : steps.any HostStep.truncates = false) (hr : steps.any HostStep.resizes = false)
    (tail : List UInt8) (now : Nat) :
    let h := (start id (Surface.new z) config b).run steps
    h.CaughtUp →
      (h.reload (Surface.new z') config tail now).isLoaded = true ∧
      ∃ shown : Surface, (h.reload (Surface.new z') config tail now).surface =
          some (shown.write tail).1 ∧
        (h.log = [] ∧ shown = Surface.new z' ∨
          shown = ((Surface.new z).write h.log).1.restored z') := by
  intro h hc
  obtain ⟨calls, queue, seen, t⟩ := exists_tracks_run (Surface.new z) hf hs steps
  rw [ht, hr] at t
  have hlive : performAll (Surface.new z) calls = ((Surface.new z).write h.log).1 := by
    rw [Surface.performAll_of_isWrite _ _ (t.isWrite rfl rfl), (t.caughtUp hc).1]
  obtain ⟨hl, shown, hsurface, hshown⟩ :=
    t.reload hc (Surface.transcript_ne_nil _) (Surface.new z') tail now
  have htail : performAll shown (Rendering.callsFor tail) = (shown.write tail).1 := by
    rw [Surface.performAll_of_isWrite _ _ fun _ => Rendering.isWrite_of_mem_callsFor]
    have hwritten := Rendering.written_append_callsFor [] tail
    rw [List.nil_append] at hwritten
    rw [hwritten]
    rfl
  refine ⟨hl, shown, htail ▸ hsurface, ?_⟩
  rcases hshown with ⟨rfl, rfl⟩ | rfl
  · exact .inl ⟨(t.caughtUp hc).1.symm, rfl⟩
  · rw [hlive]
    exact .inr rfl

end Host

end TermSession
