import TermSession.Command
import TermSession.Proofs.Session.Hearing
import TermSession.Proofs.Session.Reload
import TermSession.Proofs.Session.Sizes

/-!
# What a replay comes to

A replay feeds a log to a session piece by piece.  What comes of it is a matter of the log, the size
and the configuration alone: neither where the pieces are cut nor when they come makes a difference.

* `Replay.Reaches`: the session shows what it was fed, and nothing waits; `reaches_load`,
  `Reaches.feed`, `Reaches.feedAll`;
* `Host.Tracks.fitSame`: applying the size that a session has;
* `Replay.Leaves`: what the session leaves that saves a snapshot at the end; `leaves_live`;
* `Replay.IsPage`: the text that shows a surface;
* `Replay.again_eq`: what the second session shows;
* `Replay.result`, `Replay.run_eq`: the whole replay;
* `Outcome.ofArguments_steady`.
-/

namespace TermSession

open Display

/-! ### The size -/

section Fit

variable {σ : Type} [Display σ]

/-- Applying the size that a display has makes at most an entry. -/
theorem Resizing.apply_same (z : Resizing) {size : Size} {surface : σ}
    (hsize : Display.size surface = size) (b : Backend) (session : Text) :
    (z.apply size surface b session).2.2.1 = surface ∧
      (z.apply size surface b session).2.1.debouncer = z.debouncer ∧
      b.Keeps (z.apply size surface b session).2.2.2 := by
  subst hsize
  unfold Resizing.apply
  by_cases hp : (Display.size surface).isPositive
  · simp only [hp, ↓reduceIte, ne_eq, not_true_eq_false]
    refine ⟨trivial, trivial, ?_⟩
    split
    · exact .refl b
    · exact Backend.keeps_resync b session _
  · simp only [hp, Bool.false_eq_true, ↓reduceIte]
    exact ⟨trivial, trivial, .refl b⟩

variable {display : σ} {id : Text} {config : Config} {truncated resized : Bool} {h : Host σ}
  {receiver : Receiver} {calls : List DisplayCall} {queue : List LogEvent} {seen : List UInt8}

/-- Applying the size that a session has changes nothing that is shown. -/
theorem Host.Tracks.fitSame
    (t : Tracks display id config truncated resized h receiver calls queue seen) {size : Size}
    (hsize : Display.size (performAll display calls) = size) :
    Tracks display id config truncated resized (h.step (.fit size)) receiver calls queue seen := by
  obtain ⟨hsurface, hdebouncer, hkeeps⟩ :=
    h.session.resizing.apply_same hsize h.backend h.session.id
  have hstep : h.step (.fit size) =
      ⟨{ h.session with
          resizing := (h.session.resizing.apply size (performAll display calls) h.backend
            h.session.id).2.1 },
        (h.session.resizing.apply size (performAll display calls) h.backend
          h.session.id).2.2.2⟩ := by
    simp only [Host.step, Session.fit, t.surface, hsurface]
  rw [hstep]
  exact
    { t with
      healthy := hkeeps.failing.trans t.healthy
      delivers := t.delivers.of_feeds_eq hkeeps.feeds
      follows := by
        rw [hkeeps.log_eq]
        exact t.follows
      unsaved := fun hl => by
        rw [hkeeps.snapshot?_eq]
        exact t.unsaved hl
      steady := fun hr => (congrArg Debouncer.pending hdebouncer).trans (t.steady hr)
      saved := fun ht hr hs => by
        rw [hkeeps.snapshot?_eq]
        exact t.saved ht hr hs }

end Fit

/-! ### The first session -/

/-- A call about something else leaves the log as it is. -/
theorem Host.log_perform_aside {σ : Type} [Display σ] (h : Host σ) {c : SessionCall}
    (hc : c.isAside = true) : (h.perform c).log = h.log := by
  have hid : (h.perform c).session.id = h.session.id := (h.session.perform_fixed h.backend c).1
  rw [Host.log, hid, h.log_aside hc, Host.log]

theorem Host.log_fit {σ : Type} [Display σ] (h : Host σ) (size : Size) :
    (h.step (.fit size)).log = h.log :=
  h.log_perform_aside (c := .fit size) rfl

theorem Host.log_pollTimers {σ : Type} [Display σ] (h : Host σ) (now : Nat) :
    (h.step (.pollTimers now)).log = h.log :=
  h.log_perform_aside (c := .pollTimers now) rfl

theorem Session.isLoaded_loadHistory {s : Session} {surface : Surface}
    (hs : s.surface = some surface) (b : Backend) (now : Nat) :
    (s.loadHistory b now).1.isLoaded = true := by
  cases hl : s.isLoaded with
  | true => simp [loadHistory, hl]
  | false =>
    obtain ⟨-, -, hloaded, -⟩ := Rendering.exists_calls_load (r := ⟨s.output, surface⟩) hl
      (Eq.refl (Rendering.restored ⟨s.output, surface⟩ b s.id s.timer.settings.kind))
    simp only [loadHistory, hl, hs]
    exact hloaded

theorem Host.step_load {h : Host} (hlive : h.session.disposed = false) (now : Nat) :
    h.step (.load now []) = (h.step .processEvents).loadHistory now := by
  simp [Host.step, Host.loadHistory, Session.load, hlive, Backend.changeAll]

/-- Loading leaves no notification waiting, if nothing happens meanwhile. -/
theorem Host.Tracks.exists_load {display : Surface} {id : Text} {config : Config}
    {truncated resized : Bool} {h : Host} {receiver : Receiver} {calls : List DisplayCall}
    {queue : List LogEvent} {seen : List UInt8}
    (t : Tracks display id config truncated resized h receiver calls queue seen) (now : Nat) :
    ∃ calls' seen', Tracks display id config truncated resized (h.step (.load now [])) receiver
        calls' [] seen' ∧
      (h.step (.load now [])).session.isLoaded = true ∧ (h.step (.load now [])).log = h.log := by
  obtain ⟨calls₁, t₁, -⟩ := t.processEvents
  obtain ⟨calls₂, t₂⟩ := t₁.loadHistory now
  rw [Host.step_load t.live]
  refine ⟨calls₂, _, t₂, Session.isLoaded_loadHistory t₁.surface _ now, ?_⟩
  have hlogs : ((h.step .processEvents).loadHistory now).backend.logs = h.backend.logs :=
    Session.loadHistory_stable (Backend.stable_logs (· = h.backend.logs)) _ now h.logs_processEvents
  have hid : ((h.step .processEvents).loadHistory now).session.id = h.session.id :=
    t₂.id_eq.trans t.id_eq.symm
  simp only [Host.log, Backend.log, hlogs, hid]

/-- Loading an empty log is only noted. -/
theorem Host.Tracks.load_empty {display : Surface} {id : Text} {config : Config}
    {truncated resized : Bool} {h : Host} {receiver : Receiver} {calls : List DisplayCall}
    {seen : List UInt8}
    (t : Tracks display id config truncated resized h receiver calls [] seen)
    (ho : h.session.output = {}) (hlog : h.log = [])
    (hs : h.backend.snapshot? id config.snapshots.kind = none) (now : Nat) :
    (h.step (.load now [])).session.output = { loaded := true } ∧
      (h.step (.load now [])).backend.snapshots = h.backend.snapshots := by
  -- No notification waits, and no snapshot is stored.
  have hprocess : h.step .processEvents =
      ⟨h.session.withRendering ⟨{}, performAll display calls⟩,
        (h.backend.receiveAll receiver).2⟩ := by
    have heq := Session.processEvents_eq t.surface t.receiver_eq h.backend
    rw [t.delivers.waiting, ho] at heq
    simp only [Host.step, heq]
    rfl
  have hrestored : Rendering.restored ⟨{}, performAll display calls⟩
      (h.backend.receiveAll receiver).2 h.session.id h.session.timer.settings.kind =
        ⟨{}, performAll display calls⟩ := by
    rw [t.id_eq, t.settings]
    exact Rendering.restored_of_no_snapshot t.healthy hs
  have hempty : ((h.backend.receiveAll receiver).2.log h.session.id).toList = [] := hlog
  have hload := Rendering.load_fst (r := ⟨{}, performAll display calls⟩)
    (b := (h.backend.receiveAll receiver).2) rfl t.healthy hrestored (Nat.zero_le _)
  have hkeeps := Rendering.keeps_load ⟨{}, performAll display calls⟩
    (h.backend.receiveAll receiver).2 h.session.id h.session.timer.settings.kind
  rw [Host.step_load t.live, hprocess]
  simp only [hempty, List.drop_nil] at hload
  refine ⟨congrArg Rendering.output hload, ?_⟩
  exact (hkeeps.trans (Backend.keeps_dispatch _ _ _ _)).snapshots

namespace Replay

/-- The session with its backend, as a host has them. -/
def host (r : Replay) : Host := ⟨r.session, r.backend⟩

theorem host_new (size : Size) (config : Config) (b : Backend) :
    (new size config b).host = Host.start sessionId (Surface.new size) config b := rfl

theorem host_fit (r : Replay) (size : Size) : (r.fit size).host = r.host.step (.fit size) := rfl

theorem host_load (r : Replay) (now : Nat) : (r.load now).host = r.host.step (.load now []) := rfl

/-- A piece of output is a change of the log, of which the session is told, and a poll. -/
theorem host_feed {r : Replay} (hid : r.session.id = sessionId) (data : List UInt8) (now : Nat) :
    (r.feed data now).host =
      ((r.host.step (.log (.append data))).step .processEvents).step (.pollTimers now) := by
  simp only [host, feed, Host.step, Backend.change, hid]

/-- The session has loaded, and has rendered all that it was fed. -/
structure Reaches (size : Size) (config : Config) (h : Host) (log : List UInt8) : Prop where
  tracks : ∃ receiver calls seen,
    h.Tracks (Surface.new size) sessionId config false false receiver calls [] seen
  loaded : h.session.isLoaded = true
  log_eq : h.log = log

variable {size : Size} {config : Config} {r : Replay} {h : Host} {log : List UInt8}

/-- Before it loads, the session has shown nothing and is told nothing. -/
theorem tracks_fit (hz : size.isPositive = true) (config : Config) :
    ∃ receiver, ((new size config {}).fit size).host.Tracks (Surface.new size) sessionId config
      false false receiver [] [] [] := by
  have hsize : Display.size (performAll (Surface.new size) []) = size :=
    Size.atLeastOne_of_isPositive hz
  have tstart : Host.Tracks (Surface.new size) sessionId config false false
      (Host.start sessionId (Surface.new size) config {}) _ [] [] [] :=
    Host.tracks_start (Surface.new size) rfl rfl
  rw [host_fit, host_new]
  exact ⟨_, tstart.fitSame hsize⟩

theorem log_fit (size : Size) (config : Config) :
    ((new size config {}).fit size).host.log = [] := by
  rw [host_fit, Host.log_fit]
  rfl

theorem reaches_load (hz : size.isPositive = true) (config : Config) (now : Nat) :
    Reaches size config (((new size config {}).fit size).load now).host [] := by
  obtain ⟨receiver, t⟩ := tracks_fit hz config
  obtain ⟨calls, seen, t', hl, hlog⟩ := t.exists_load now
  rw [host_load]
  exact ⟨⟨receiver, calls, seen, t'⟩, hl, hlog.trans (log_fit size config)⟩

theorem Reaches.append (a : Reaches size config h log) (data : List UInt8) :
    Reaches size config ((h.step (.log (.append data))).step .processEvents) (log ++ data) := by
  obtain ⟨receiver, calls, seen, t⟩ := a.tracks
  obtain ⟨⟨hl, -⟩, hlog⟩ := t.caughtUp_append ⟨a.loaded, t.waiting_eq⟩ data
  have hstep : h.step (.log (.append data)) =
      { h with backend := h.backend.append h.session.id data } := rfl
  obtain ⟨calls', t', -⟩ := (t.append data).processEvents
  rw [← hstep] at t'
  exact ⟨⟨receiver, calls', _, t'⟩, hl, hlog.trans (congrArg (· ++ data) a.log_eq)⟩

/-- A snapshot may be saved, which changes nothing that is shown. -/
theorem Reaches.pollTimers (a : Reaches size config h log) (now : Nat) :
    Reaches size config (h.step (.pollTimers now)) log := by
  obtain ⟨receiver, calls, seen, t⟩ := a.tracks
  obtain ⟨calls', t'⟩ := t.pollTimers now
  have hsame := h.session.resized_perform h.backend (c := .pollTimers now) rfl
  exact ⟨⟨receiver, calls', seen, t'⟩, hsame.loaded_eq.trans a.loaded,
    (h.log_pollTimers now).trans a.log_eq⟩

theorem Reaches.feed (a : Reaches size config r.host log) (data : List UInt8) (now : Nat) :
    Reaches size config (r.feed data now).host (log ++ data) := by
  have hid : r.session.id = sessionId := by
    obtain ⟨_, _, _, t⟩ := a.tracks
    exact t.id_eq
  rw [host_feed hid]
  exact (a.append data).pollTimers now

theorem Reaches.feedAll (a : Reaches size config r.host log) (clock : Nat → Nat)
    (data : List (List UInt8)) :
    Reaches size config (r.feedAll clock data).host (log ++ data.flatten) := by
  suffices hfrom : ∀ k, Reaches size config
      ((data.zipIdx k).foldl (fun r p => r.feed p.1 (clock p.2)) r).host (log ++ data.flatten) from
    hfrom 0
  induction data generalizing r log with
  | nil => intro k; simpa using a
  | cons piece data ih =>
    intro k
    have hrest := ih (a.feed piece (clock k)) (k + 1)
    rw [List.append_assoc] at hrest
    exact hrest

/-! ### What it leaves -/

/-- What is shown at the end of a replay: a surface with the whole log written to it at once. -/
def rendered (size : Size) (log : List UInt8) : Surface := ((Surface.new size).write log).1

/-- The snapshot of all of a log. -/
def fullSnapshot (size : Size) (log : List UInt8) : Snapshot :=
  { data := (rendered size log).transcript, offset := log.length, size := some size }

theorem size_rendered (hz : size.isPositive = true) (log : List UInt8) :
    (rendered size log).size = size := by
  have hnew : (Surface.new size).size = size := Size.atLeastOne_of_isPositive hz
  have hs : (Surface.new size).size.atLeastOne = (Surface.new size).size := by
    rw [hnew, Size.atLeastOne_of_isPositive hz]
  rw [rendered, Surface.size_write hs, hnew]

/-- A session shows all of a log, and has stored a snapshot of it, or none; there is none only if
there is nothing to show. -/
structure Leaves (size : Size) (config : Config) (r : Replay) (log : List UInt8) : Prop where
  surface_eq : r.session.surface = some (rendered size log)
  rendered_eq : r.session.output.rendered = log.length
  log_eq : (r.backend.log sessionId).toList = log
  healthy : r.backend.failing = []
  snapshot : r.backend.snapshot? sessionId config.snapshots.kind = none ∧ log = [] ∨
    r.backend.snapshot? sessionId config.snapshots.kind = some (fullSnapshot size log)

theorem Reaches.flush (hz : size.isPositive = true) (a : Reaches size config r.host log) :
    Leaves size config r.flush log := by
  obtain ⟨receiver, calls, seen, t⟩ := a.tracks
  obtain ⟨hwritten, hposition⟩ := t.caughtUp ⟨a.loaded, t.waiting_eq⟩
  rw [a.log_eq] at hwritten hposition
  have t' := t.saveNow
  obtain ⟨hlogs, hflushed⟩ := t.flush_output
  have hshown : performAll (Surface.new size) calls = rendered size log := by
    rw [Surface.performAll_of_isWrite _ _ (t.isWrite rfl rfl), hwritten, rendered]
  have hp : r.flush.session.output.position = log.length := hflushed.trans hposition
  refine
    { surface_eq := t'.surface.trans (congrArg some hshown)
      rendered_eq := (t'.level rfl).trans hp
      log_eq := ?_
      healthy := t'.healthy
      snapshot := ?_ }
  · have hlog := a.log_eq
    rw [Host.log, t.id_eq] at hlog
    rw [← hlog, Backend.log, Backend.log]
    exact congrArg (fun logs => ((Table.find? logs sessionId).getD .empty).toList) hlogs
  · rcases t'.saved rfl rfl (t.sinceSnapshot_flush a.loaded) with ⟨hnone, rfl⟩ | hsome
    · exact .inl ⟨hnone, hwritten.symm⟩
    · have hsize : Display.size (rendered size log) = size := size_rendered hz log
      refine .inr (hsome.trans (congrArg some ?_))
      have hp' : r.host.flush.session.output.position = log.length := hp
      simp only [hshown, SnapshotTimer.snapshotOf, fullSnapshot, hsize, hp']
      rfl

/-- Without output a snapshot is saved only if no output is needed for one. -/
theorem isSome_snapshot?_flush {r : Replay} {surface : Surface} {settings : SnapshotSettings}
    (hs : r.session.surface = some surface) (ho : r.session.output = { loaded := true })
    (hid : r.session.id = sessionId) (ht : r.session.timer.settings = settings)
    (hf : r.backend.failing = []) (hnone : r.backend.snapshots = {}) :
    (r.flush.backend.snapshot? sessionId settings.kind).isSome =
      decide (settings.minBytes = 0) := by
  have hwants : r.session.timer.wants r.session.output true = decide (settings.minBytes = 0) := by
    simp [SnapshotTimer.wants, ho, ht]
  simp only [Replay.flush, Session.flush, hs, SnapshotTimer.flush, hwants]
  by_cases hzero : settings.minBytes = 0
  · simp only [hzero, decide_true, if_true, Backend.saveSnapshot, Backend.fails, hf, hid, ht]
    simp [Backend.snapshot?_storeSnapshot]
  · simp [hzero, Backend.snapshot?, hnone]

/-- The first session leaves all of the log, wherever it is cut and whenever the pieces come. -/
theorem leaves_live (hz : size.isPositive = true) (config : Config) (chunk : Nat)
    (clock : Nat → Nat) (log : List UInt8) :
    Leaves size config (live size config chunk clock log) log := by
  have hfed := (reaches_load hz config (clock 0)).feedAll (clock ∘ (· + 1)) (pieces chunk log)
  rw [List.nil_append, flatten_pieces] at hfed
  exact hfed.flush hz

/-- Before the first piece nothing is counted and nothing is stored. -/
theorem load_fit (hz : size.isPositive = true) (config : Config) (now : Nat) :
    let r := ((new size config {}).fit size).load now
    r.session.output = { loaded := true } ∧ r.backend.snapshots = {} := by
  have hfit : ((new size config {}).fit size).session.output = {} ∧
      ((new size config {}).fit size).backend.snapshots = {} := by
    obtain ⟨-, -, -, -, hkeeps, -⟩ := Host.exists_calls_apply
      (new size config {}).session.resizing size (Surface.new size) (new size config {}).backend
      sessionId
    exact ⟨rfl, hkeeps.snapshots⟩
  obtain ⟨receiver, t⟩ := tracks_fit hz config
  have hnone : ((new size config {}).fit size).backend.snapshot? sessionId
      config.snapshots.kind = none := by
    rw [Backend.snapshot?, hfit.2]
    rfl
  obtain ⟨houtput, hsnapshots⟩ := t.load_empty hfit.1 (log_fit size config) hnone now
  rw [← host_load] at houtput hsnapshots
  exact ⟨houtput, hsnapshots.trans hfit.2⟩

/-- An empty log leaves a snapshot if no output is needed for one. -/
theorem isSome_snapshot?_live_nil (hz : size.isPositive = true) (config : Config) (chunk : Nat)
    (clock : Nat → Nat) :
    ((live size config chunk clock []).backend.snapshot? sessionId
      config.snapshots.kind).isSome = decide (config.snapshots.minBytes = 0) := by
  have hlive : live size config chunk clock [] =
      (((new size config {}).fit size).load (clock 0)).flush := by
    simp [live, pieces, piecesAfter, feedAll]
  obtain ⟨⟨receiver, calls, seen, t⟩, -, -⟩ := reaches_load hz config (clock 0)
  obtain ⟨houtput, hsnapshots⟩ := load_fit hz config (clock 0)
  rw [hlive]
  exact isSome_snapshot?_flush t.surface houtput t.id_eq t.settings t.healthy hsnapshots

/-! ### The second session -/

/-- Ending a session takes nothing away that a second one needs. -/
theorem Leaves.dispose {r : Replay} (l : Leaves size config r log) :
    (r.dispose.backend.log sessionId).toList = log ∧ r.dispose.backend.failing = [] ∧
      r.dispose.backend.snapshot? sessionId config.snapshots.kind =
        r.backend.snapshot? sessionId config.snapshots.kind := by
  have hkept : r.dispose.backend.logs = r.backend.logs ∧
      r.dispose.backend.failing = r.backend.failing ∧
      r.dispose.backend.snapshots = r.backend.snapshots := by
    simp only [Replay.dispose, Session.dispose]
    split
    · exact ⟨rfl, rfl, rfl⟩
    · dsimp only
      split <;> exact ⟨rfl, rfl, rfl⟩
  obtain ⟨hlogs, hfailing, hsnapshots⟩ := hkept
  refine ⟨?_, hfailing.trans l.healthy, by rw [Backend.snapshot?, hsnapshots, Backend.snapshot?]⟩
  rw [Backend.log, hlogs]
  exact l.log_eq

/-- What is shown of a surface. -/
def screen (label : String) (surface : Surface) (offset : Nat) : Text :=
  unlines (heading label surface offset :: trimEnd surface.screen.screenLines)

theorem shown_eq {r : Replay} {surface : Surface} {offset : Nat}
    (hs : r.session.surface = some surface) (ho : r.session.output.offset = offset)
    (label : String) : r.shown label = screen label surface offset := by
  simp only [shown, hs, ho, screen]

/-- Text that shows a surface: a heading with the size, an offset and the title, and below it the
lines up to the last one that is not empty. -/
def IsPage (label : String) (surface : Surface) (offset : Nat) (text : Text) : Prop :=
  ∃ (lines : List Text) (blanks : Nat),
    surface.screen.screenLines = lines ++ List.replicate blanks [] ∧
      lines.getLast? ≠ some [] ∧
      text = "== ".toList ++ label.toList ++ " (".toList ++
        Decimal.render surface.size.cols ++ ['x'] ++ Decimal.render surface.size.rows ++
        ", offset ".toList ++ Decimal.render offset ++
        ", title ".toList ++ Text.quote surface.screen.title ++ [')', '\n'] ++
        lines.flatMap (· ++ ['\n'])

theorem exists_trimEnd (lines : List Text) :
    ∃ blanks, lines = trimEnd lines ++ List.replicate blanks [] := by
  have hblank : ∀ line ∈ lines.rtakeWhile List.isEmpty, line = [] := fun line hline =>
    List.isEmpty_iff.1 (List.mem_rtakeWhile_imp hline)
  refine ⟨(lines.rtakeWhile List.isEmpty).length, ?_⟩
  rw [← List.eq_replicate_of_mem hblank]
  exact List.rdropWhile_append_rtakeWhile.symm

theorem getLast?_trimEnd (lines : List Text) : (trimEnd lines).getLast? ≠ some [] := by
  by_cases hne : trimEnd lines = []
  · rw [hne]
    simp
  · rw [List.getLast?_eq_some_getLast hne]
    intro hlast
    exact List.rdropWhile_last_not List.isEmpty lines hne
      (List.isEmpty_iff.2 (Option.some.inj hlast))

theorem isPage_screen (label : String) (surface : Surface) (offset : Nat) :
    IsPage label surface offset (screen label surface offset) := by
  obtain ⟨blanks, hlines⟩ := exists_trimEnd surface.screen.screenLines
  unfold IsPage
  refine ⟨trimEnd surface.screen.screenLines, blanks, hlines, getLast?_trimEnd _, ?_⟩
  unfold screen unlines heading Size.render
  rw [List.flatMap_cons]
  simp only [List.append_assoc, List.cons_append, List.nil_append]

/-- The surface that shows the snapshot of all of a log. -/
def reloaded (size : Size) (log : List UInt8) : Surface :=
  ((Surface.new size).write (Utf8.encode (rendered size log).transcript)).1

/-- The second session shows what the snapshot restores, and nothing has to be added. -/
theorem again_eq (hz : size.isPositive = true) {b : Backend}
    (hlog : (b.log sessionId).toList = log) (hf : b.failing = [])
    (hs : b.snapshot? sessionId config.snapshots.kind = some (fullSnapshot size log)) (now : Nat) :
    (again size config b now).session.surface = some (reloaded size log) ∧
      (again size config b now).session.output.rendered = log.length := by
  obtain ⟨b', hlogs, hsnapshots, hfailing, houtput, hsurface⟩ :=
    Session.load_new sessionId (Surface.new size) config b now
  let start : Rendering := ⟨{}, Surface.new size⟩
  have hlog' : (b'.log sessionId).toList = log := by rwa [Backend.log, hlogs, ← Backend.log]
  have hs' : b'.snapshot? sessionId config.snapshots.kind = some (fullSnapshot size log) := by
    rwa [Backend.snapshot?, hsnapshots, ← Backend.snapshot?]
  have hrestored : start.restored b' sessionId config.snapshots.kind =
      start.applySnapshot (fullSnapshot size log) :=
    Rendering.restored_of_snapshot rfl (hfailing.trans hf) hs' (Surface.transcript_ne_nil _)
  have hposition : (start.applySnapshot (fullSnapshot size log)).output.position = log.length := rfl
  have hload := Rendering.load_fst (r := start) (b := b') rfl (hfailing.trans hf) hrestored
    (by rw [hlog', hposition])
  rw [hlog', hposition, List.drop_length] at hload
  have hsize : Display.size start.surface = size := Size.atLeastOne_of_isPositive hz
  have hshown : (start.applySnapshot (fullSnapshot size log)).surface = reloaded size log :=
    Rendering.surface_applySnapshot_of_eq (congrArg some hsize.symm)
  constructor
  · rw [← hshown]
    refine hsurface.trans (congrArg some ?_)
    rw [hload]
    rfl
  · refine (congrArg OutputStream.rendered houtput).trans ?_
    rw [hload]
    exact Nat.zero_max _

/-! ### The whole replay -/

/-- The snapshot that is left shows all of the log; there is none only if there is no output. -/
theorem snapshot?_live (hz : size.isPositive = true) (config : Config) (chunk : Nat)
    (clock : Nat → Nat) (log : List UInt8) :
    (live size config chunk clock log).backend.snapshot? sessionId config.snapshots.kind =
      if log = [] ∧ config.snapshots.minBytes ≠ 0 then none else some (fullSnapshot size log) := by
  rcases (leaves_live hz config chunk clock log).snapshot with ⟨hnone, rfl⟩ | hsome
  · have hzero := isSome_snapshot?_live_nil hz config chunk clock
    rw [hnone] at hzero
    rw [hnone, if_pos ⟨rfl, of_decide_eq_false hzero.symm⟩]
  · rw [hsome, if_neg]
    rintro ⟨rfl, hzero⟩
    have hstored := isSome_snapshot?_live_nil hz config chunk clock
    rw [hsome] at hstored
    exact hzero (of_decide_eq_true hstored.symm)

/-- What a replay of a log comes to: the screen after all of it, and the screen of a session that
loads the snapshot of all of it. -/
def result (size : Size) (config : Config) (log : List UInt8) : ReplayResult :=
  if log = [] ∧ config.snapshots.minBytes ≠ 0 then
    .empty (screen "live" (rendered size log) (log.length % UInt64.size))
  else
    .reloaded (screen "live" (rendered size log) (log.length % UInt64.size))
      (screen "reloaded" (reloaded size log) (log.length % UInt64.size))

/-- Neither where a log is cut nor the time makes a difference to what a replay comes to. -/
theorem run_eq (hz : size.isPositive = true) (config : Config) (chunk : Nat) (clock : Nat → Nat)
    (log : List UInt8) : run size config chunk clock log = result size config log := by
  have l := leaves_live hz config chunk clock log
  obtain ⟨hlog, hfailing, hsnapshot⟩ := l.dispose
  rw [snapshot?_live hz] at hsnapshot
  have hlive := shown_eq l.surface_eq (OutputStream.offset_eq l.rendered_eq) "live"
  unfold result
  split
  · rename_i hnone
    rw [if_pos hnone] at hsnapshot
    have hempty : log.isEmpty = true := List.isEmpty_iff.mpr hnone.1
    simp only [run, hsnapshot, hlive, hempty, if_true]
  · rename_i hsome
    rw [if_neg hsome] at hsnapshot
    obtain ⟨hsurface, hrendered⟩ := again_eq hz hlog hfailing hsnapshot
      (clock ((pieces chunk log).length + 1))
    have hagain := shown_eq hsurface (OutputStream.offset_eq hrendered) "reloaded"
    simp only [run, hsnapshot, hlive, hagain]

end Replay

/-! ### The program -/

namespace Command

/-- What is read as a replay has a size, and pieces that are not empty. -/
theorem isPositive_of_readFrom {o o' : ReplayOptions} {arguments : List Text}
    (h : readFrom o arguments = .ok (.replay o')) : o'.isPositive = true := by
  fun_induction readFrom o arguments with
  | case1 o hp =>
    obtain rfl : o = o' := by simpa using h
    exact hp
  | case2 => cases h
  | case3 => cases h
  | case4 => cases h
  | case5 => cases h
  | case6 o t hh hv option ho value rest ih =>
    cases hn : readNumber o option value with
    | error e => simp [hn, bind, Except.bind] at h
    | ok o₁ => exact ih o₁ (by simpa [hn, bind, Except.bind] using h)
  | case7 => cases h
  | case8 o t rest hh hv ho hd ih =>
    cases hf : readFile o t with
    | error e => simp [hf, bind, Except.bind] at h
    | ok o₁ => exact ih o₁ (by simpa [hf, bind, Except.bind] using h)

theorem size_isPositive_of_read {arguments : List Text} {o : ReplayOptions}
    (h : read arguments = .ok (.replay o)) : o.size.isPositive = true := by
  have hall := isPositive_of_readFrom h
  rw [ReplayOptions.isPositive, Bool.and_eq_true] at hall
  exact hall.1

end Command

namespace Outcome

/-- What the program says to a replay of a log that it can read. -/
theorem ofArguments_of_read {arguments : List Text} {o : ReplayOptions}
    (ha : Command.read arguments = .ok (.replay o)) (config : Config) (clock : Nat → Nat)
    {input : Option Text → Except ReadError (List UInt8)} {log : List UInt8}
    (hinput : input o.file = .ok log) :
    ofArguments arguments config clock input = ofReplay (Replay.result o.size config log) := by
  simp only [ofArguments, ha, ofOptions, hinput, Replay.run_eq (Command.size_isPositive_of_read ha)]

/-- The program did what it should with a log: it printed the page of the surface to which the whole
log is written at once and, if a snapshot is left, below an empty line the page of the surface to
which that is written; and it complained of nothing. -/
def Shows (size : Size) (log : List UInt8) (snapshot : Option Snapshot) (outcome : Outcome) :
    Prop :=
  outcome.code = 0 ∧ outcome.messages = [] ∧
    ∃ live, Replay.IsPage "live" ((Surface.new size).write log).1 (log.length % UInt64.size) live ∧
      match snapshot with
      | none => outcome.output = live
      | some s => ∃ again,
          Replay.IsPage "reloaded" ((Surface.new size).write (Utf8.encode s.data)).1
            (log.length % UInt64.size) again ∧
          outcome.output = live ++ '\n' :: again

theorem shows_result (size : Size) (config : Config) (log : List UInt8) :
    (ofReplay (Replay.result size config log)).Shows size log
      (if log = [] ∧ config.snapshots.minBytes ≠ 0 then none
      else some (Replay.fullSnapshot size log)) := by
  unfold Replay.result
  split
  · exact ⟨rfl, rfl, _, Replay.isPage_screen .., rfl⟩
  · exact ⟨rfl, rfl, _, Replay.isPage_screen .., _, Replay.isPage_screen .., rfl⟩

/-- **A replay does not depend on how the log is cut, or on the time.**  Take any arguments that ask
for a replay, others that ask for the same one with another number of bytes in a piece, and any two
clocks: output, messages and exit code are the same.  The first session shows what one surface shows
to which the whole log is written at once, and its offset counts the log.  The snapshot that the
second session is loaded from is that of the whole log; there is none only if the log is empty and
the configuration asks for some output before a snapshot.  Whenever the second session is loaded, it
shows the snapshot, and its offset counts the log.  Just this is printed, and the program
succeeds. -/
theorem ofArguments_steady {arguments arguments' : List Text} {o : ReplayOptions} {chunk : Nat}
    (ha : Command.read arguments = .ok (.replay o))
    (ha' : Command.read arguments' = .ok (.replay { o with chunk }))
    {input : Option Text → Except ReadError (List UInt8)} {log : List UInt8}
    (hinput : input o.file = .ok log) (config : Config) (clock clock' : Nat → Nat) :
    let first := Replay.live o.size config o.chunk clock log
    let left := first.dispose.backend
    let snapshot := left.snapshot? Replay.sessionId config.snapshots.kind
    ofArguments arguments' config clock' input = ofArguments arguments config clock input ∧
      first.session.surface = some ((Surface.new o.size).write log).1 ∧
      first.session.output.rendered = log.length ∧
      first.session.output.offset = log.length % UInt64.size ∧
      snapshot =
        (if log = [] ∧ config.snapshots.minBytes ≠ 0 then none
        else some
          { data := ((Surface.new o.size).write log).1.transcript
            offset := log.length
            size := some o.size }) ∧
      (∀ s ∈ snapshot, ∀ now,
        let second := Replay.again o.size config left now
        second.session.surface = some ((Surface.new o.size).write (Utf8.encode s.data)).1 ∧
          second.session.output.rendered = log.length ∧
          second.session.output.offset = log.length % UInt64.size) ∧
      (ofArguments arguments config clock input).Shows o.size log snapshot := by
  intro first left snapshot
  have hp := Command.size_isPositive_of_read ha
  have l := Replay.leaves_live hp config o.chunk clock log
  obtain ⟨hlog, hfailing, hkept⟩ := l.dispose
  have hsnapshot : snapshot = _ := hkept.trans (Replay.snapshot?_live hp config o.chunk clock log)
  have hsame : ofArguments arguments' config clock' input =
      ofArguments arguments config clock input := by
    rw [ofArguments_of_read ha config clock hinput]
    exact ofArguments_of_read ha' config clock' hinput
  refine ⟨hsame, l.surface_eq, l.rendered_eq, OutputStream.offset_eq l.rendered_eq, hsnapshot,
    fun s hs now => ?_, ?_⟩
  · have hfull : snapshot = some (Replay.fullSnapshot o.size log) := by
      rw [hsnapshot] at hs ⊢
      split at hs
      · cases hs
      · exact if_neg ‹_›
    obtain rfl : Replay.fullSnapshot o.size log = s := Option.some.inj (hfull.symm.trans hs)
    obtain ⟨hsurface, hrendered⟩ := Replay.again_eq (b := left) hp hlog hfailing hfull now
    exact ⟨hsurface, hrendered, OutputStream.offset_eq hrendered⟩
  · rw [ofArguments_of_read ha config clock hinput, hsnapshot]
    exact shows_result o.size config log

/-- A title and two letters, cut after each byte and not at all, with the clock at rest and with an
hour between the pieces.  The snapshot does not keep the title. -/
theorem ofArguments_steady_titled :
    let log := Utf8.encode ['\x1b', ']', '0', ';', 't', '\x07', 'a', 'b']
    let input : Option Text → Except ReadError (List UInt8) := fun _ => .ok log
    let arguments := ["--cols".toList, "8".toList, "--rows".toList, "1".toList]
    let arguments' := arguments ++ ["--chunk".toList, "1".toList]
    let outcome := ofArguments arguments {} (3600000 * ·) input
    Command.read arguments = .ok (.replay { size := ⟨1, 8⟩ }) ∧
      Command.read arguments' = .ok (.replay { size := ⟨1, 8⟩, chunk := 1 }) ∧
      ofArguments arguments' {} (fun _ => 0) input = outcome ∧
      (Replay.live ⟨1, 8⟩ {} 4096 (3600000 * ·) log).session.surface =
        some ((Surface.new ⟨1, 8⟩).write log).1 ∧
      (∃ s, outcome.Shows ⟨1, 8⟩ log (some s)) ∧
      outcome.output =
        ("== live (8x1, offset 8, title \"t\")\nab\n\n" ++
          "== reloaded (8x1, offset 8, title \"\")\nab\n").toList := by
  intro log input arguments arguments' outcome
  have ha : Command.read arguments = .ok (.replay { size := ⟨1, 8⟩ }) := by decide
  have ha' : Command.read arguments' = .ok (.replay { size := ⟨1, 8⟩, chunk := 1 }) := by
    decide
  have hinput : input none = .ok log := rfl
  obtain ⟨hsame, hsurface, -, -, hsnapshot, -, hshows⟩ :=
    ofArguments_steady ha ha' hinput {} (3600000 * ·) (fun _ => 0)
  have hlog : ¬(log = [] ∧ ({} : Config).snapshots.minBytes ≠ 0) := by decide
  rw [if_neg hlog] at hsnapshot
  rw [hsnapshot] at hshows
  exact ⟨ha, ha', hsame, hsurface, ⟨_, hshows⟩, by decide +kernel⟩

end Outcome

end TermSession
