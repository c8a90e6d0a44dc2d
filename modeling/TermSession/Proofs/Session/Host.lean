import TermSession.Proofs.Backend.Delivery
import TermSession.Proofs.Session.Following
import TermSession.Session

/-!
# Runs of a session over its backend

A host holds a session and the backend it talks to.  A run is any interleaving of changes of the
log with what the host lets the session do; while a session loads, the log may also change between
the taking of the notifications and the reading of the history.

* `Session.exists_processEvents`, `Session.exists_loadHistory`: the two calls of a session that render
  output, for a session that follows its log;
* `Host`, `HostStep`, `Host.step`, `Host.run`;
* `Host.Tracks`: what is true of every state of a run; `tracks_start`, `Tracks.step`;
* `exists_tracks_run`: it holds after every run.
-/

namespace TermSession

/-- A change of an output log. -/
inductive LogChange where
  | append (data : List UInt8)
  | truncate
  deriving DecidableEq, Repr, Inhabited

namespace Backend

/-- Changes a session's log and tells the subscribers. -/
def change (b : Backend) (session : Text) : LogChange → Backend
  | .append data => b.append session data
  | .truncate => b.truncate session

/-- Changes a session's log several times. -/
def changeAll (b : Backend) (session : Text) (changes : List LogChange) : Backend :=
  changes.foldl (·.change session ·) b

end Backend

/-- One step of a run. -/
inductive HostStep where
  /-- The log changes. -/
  | log (change : LogChange)
  | processEvents
  | pollTimers (now : Nat)
  /-- The session loads while the log changes. -/
  | load (now : Nat) (meanwhile : List LogChange)
  | requestSize (size : Size) (now : Nat)
  | fit (size : Size)
  deriving Repr, Inhabited

namespace HostStep

/-- Does the log start anew in this step? -/
def truncates : HostStep → Bool
  | log change => change = .truncate
  | load _ meanwhile => meanwhile.contains .truncate
  | _ => false

/-- May this step bring about a new size? -/
def resizes : HostStep → Bool
  | requestSize _ _ => true
  | fit _ => true
  | _ => false

end HostStep

/-! ### Notifications and history -/

section Output

open Display

variable {σ : Type} [Display σ] {S : Showing}

theorem Rendering.keeps_load (r : Rendering σ) (b : Backend) (session kind : Text) :
    b.Keeps (r.load b session kind).2.2 := by
  unfold load
  split
  · exact .refl _
  · exact Backend.keeps_fetchLog _ _ _

/-- Saving either does nothing, or stores a snapshot of what is rendered. -/
theorem SnapshotTimer.flush_cases (t : SnapshotTimer) (r : Rendering σ) {b : Backend}
    (hb : b.failing = []) (session : Text) (force : Bool) :
    t.flush r b session force = (false, r, b) ∨
      r.output.loaded = true ∧
      t.flush r b session force = (true, { r with output := r.output.resetSinceSnapshot },
        ({ b with saveAttempts := b.saveAttempts + 1 } : Backend).storeSnapshot session
          t.settings.kind (snapshotOf r)) := by
  unfold flush
  by_cases hwants : t.wants r.output force
  · have hloaded : r.output.loaded = true := by
      simp only [wants, Bool.and_eq_true] at hwants
      exact hwants.1
    exact .inr ⟨hloaded, by simp [hwants, Backend.saveSnapshot, Backend.fails, hb]⟩
  · exact .inl (if_neg hwants)

namespace Session

theorem foldl_handleEvent (id : Text) (events : List LogEvent) (r : Rendering σ) (b : Backend) :
    (events.foldl (handleEvent id) (r, b)).1 = r.handleAll events ∧
      b.Keeps (events.foldl (handleEvent id) (r, b)).2 := by
  induction events generalizing r b with
  | nil => exact ⟨rfl, .refl b⟩
  | cons e events ih =>
    obtain ⟨h₁, h₂⟩ := ih (r.handle e).1
      (b.dispatch id (r.handle e).2 (r.handle e).1.output.loaded).2
    exact ⟨h₁, (Backend.keeps_dispatch _ _ _ _).trans h₂⟩

variable {s : Session σ} {surface : σ} {receiver : Receiver} {b : Backend}
  {calls : List DisplayCall} {queue : List LogEvent} {seen log : List UInt8}

theorem processEvents_eq (hs : s.surface = some surface) (hr : s.receiver = some receiver)
    (b : Backend) :
    (s.processEvents b).2 =
      let (r, b) := (b.waiting receiver).foldl (handleEvent s.id)
        (⟨s.output, surface⟩, (b.receiveAll receiver).2)
      (s.withRendering r, b) := by
  simp [processEvents, hs, hr, Backend.receiveAll, withRendering]

/-- A session that follows its log still does when it has taken every notification. -/
theorem exists_processEvents (hs : s.surface = some surface) (hr : s.receiver = some receiver)
    (hd : b.Delivers receiver queue)
    (hf : s.output.Follows S (DisplayCall.written calls) seen queue log) :
    ∃ r b' calls', (s.processEvents b).2 = (s.withRendering r, b') ∧
      (b.receiveAll receiver).2.Keeps b' ∧ r.surface = performAll surface calls' ∧
      r.output.Follows S (DisplayCall.written (calls ++ calls')) log [] log ∧
      r.output.loaded = s.output.loaded ∧
      (Unbroken queue → Rendering.MovesOn ⟨s.output, surface⟩ r calls') := by
  obtain ⟨calls', hsurface, hfollows, hloaded, hmoves⟩ :=
    Rendering.follows_handleAll (r := ⟨s.output, surface⟩) hf
  obtain ⟨hrendering, hkeeps⟩ :=
    foldl_handleEvent s.id queue ⟨s.output, surface⟩ (b.receiveAll receiver).2
  refine ⟨_, _, calls', ?_, hkeeps, hsurface, hfollows, hloaded, hmoves⟩
  rw [processEvents_eq hs hr, hd.waiting, ← hrendering]

/-- A session that follows its log still does when it has loaded, if what is restored shows the log
or a restart of the log waits. -/
theorem exists_loadHistory {r₀ : Rendering σ} (calls₀ : List DisplayCall)
    (hs : s.surface = some surface) (hl : s.output.loaded = false) (hb : b.failing = [])
    (hf : s.output.Follows S (DisplayCall.written calls) seen queue (b.log s.id).toList)
    (hr : Rendering.restored ⟨s.output, surface⟩ b s.id s.timer.settings.kind = r₀)
    (hstart : Unbroken queue → r₀.output.position ≤ (b.log s.id).toList.length ∧
      S.Holds (b.log s.id).toList (DisplayCall.written (calls ++ calls₀)) r₀.output.position)
    (now : Nat) :
    ∃ r b' calls',
      s.loadHistory b now = ({ s.withRendering r with timer := s.timer.start now }, b') ∧
      b.Keeps b' ∧ r.surface = performAll r₀.surface calls' ∧
      r.output.Follows S (DisplayCall.written (calls ++ calls₀ ++ calls')) seen queue
        (b.log s.id).toList ∧
      r.output.loaded = true ∧ (Unbroken queue → r₀.MovesOn r calls') := by
  obtain ⟨calls', hsurface, hfollows, hloaded, hmoves⟩ :=
    Rendering.follows_load calls₀ hf hl hb hr hstart
  have hload : s.loadHistory b now =
      let loaded := Rendering.load ⟨s.output, surface⟩ b s.id s.timer.settings.kind
      ({ s.withRendering loaded.1 with timer := s.timer.start now },
        (loaded.2.2.dispatch s.id loaded.2.1 true).2) := by
    simp [loadHistory, isLoaded, hl, hs]
  exact ⟨_, _, calls', hload, (Rendering.keeps_load _ _ _ _).trans (Backend.keeps_dispatch _ _ _ _),
    hsurface, hfollows, hloaded, hmoves⟩

/-- Saving now either does nothing, or stores a snapshot of what is rendered. -/
theorem flush_cases (s : Session σ) {b : Backend} (hb : b.failing = []) :
    s.flush b = (false, s, b) ∨
    ∃ surface, s.surface = some surface ∧ s.output.loaded = true ∧
      s.flush b = (true, { s with output := s.output.resetSinceSnapshot },
        ({ b with saveAttempts := b.saveAttempts + 1 } : Backend).storeSnapshot s.id
          s.timer.settings.kind (SnapshotTimer.snapshotOf ⟨s.output, surface⟩)) := by
  cases hs : s.surface with
  | none => exact .inl (by simp [Session.flush, hs])
  | some surface =>
    have hself : s.withRendering ⟨s.output, surface⟩ = s := by rw [withRendering, ← hs]
    rcases s.timer.flush_cases ⟨s.output, surface⟩ hb s.id true with hidle | ⟨hl, hflush⟩
    · exact .inl (by simp [Session.flush, hs, hidle, hself])
    · exact .inr ⟨surface, rfl, hl, by simp [Session.flush, hs, hflush, withRendering]⟩

end Session

end Output

/-- A session and the backend it talks to. -/
structure Host (σ : Type := Surface) where
  session : Session σ
  backend : Backend

namespace Host

open Display

variable {σ : Type} [Display σ]

/-- A new session. -/
def start (id : Text) (display : σ) (config : Config) (b : Backend) : Host σ :=
  let (session, backend) := Session.new id display config b
  { session, backend }

/-- What a step does. -/
def step (h : Host σ) : HostStep → Host σ
  | .log change => { h with backend := h.backend.change h.session.id change }
  | .processEvents =>
    let (_, session, backend) := h.session.processEvents h.backend
    { session, backend }
  | .pollTimers now =>
    let (session, backend) := h.session.pollTimers h.backend now
    { session, backend }
  | .load now meanwhile =>
    let (session, backend) := h.session.load h.backend now (·.changeAll h.session.id meanwhile)
    { session, backend }
  | .requestSize size now => { h with session := h.session.requestSize size now }
  | .fit size =>
    let (_, session, backend) := h.session.fit size h.backend
    { session, backend }

/-- Steps in order. -/
def run (h : Host σ) (steps : List HostStep) : Host σ := steps.foldl step h

/-- The session's log as it is. -/
def log (h : Host σ) : List UInt8 := (h.backend.log h.session.id).toList

/-- The notifications that the session has not taken yet. -/
def waiting (h : Host σ) : List LogEvent :=
  match h.session.receiver with
  | some r => h.backend.waiting r
  | none => []

/-- The session is loaded and has taken every notification. -/
def CaughtUp (h : Host σ) : Prop := h.session.isLoaded = true ∧ h.waiting = []

/-- The state of a run: `receiver` is where the session listens, `calls` are the calls it has made
of its display, `queue` waits, and `seen` is the log as far as the session was told.  The flags
say whether the log was restarted and whether a new size was asked for. -/
structure Tracks (display : σ) (id : Text) (config : Config) (truncated resized : Bool)
    (h : Host σ) (receiver : Receiver) (calls : List DisplayCall) (queue : List LogEvent)
    (seen : List UInt8) : Prop where
  id_eq : h.session.id = id
  settings : h.session.timer.settings = config.snapshots
  live : h.session.disposed = false
  receiver_eq : h.session.receiver = some receiver
  receiver_session : receiver.session = id
  surface : h.session.surface = some (performAll display calls)
  healthy : h.backend.failing = []
  delivers : h.backend.Delivers receiver queue
  follows : h.session.output.Follows .whole (DisplayCall.written calls) seen queue
    (h.backend.log id).toList
  unsaved : h.session.output.loaded = false →
    h.backend.snapshot? id config.snapshots.kind = none
  unbroken : truncated = false → Unbroken queue
  level : truncated = false → h.session.output.rendered = h.session.output.position
  steady : resized = false → h.session.resizing.debouncer.pending = none
  uncleared : truncated = false → .clear ∉ calls
  isWrite : truncated = false → resized = false → ∀ c ∈ calls, c.isWrite = true
  /-- If nothing was rendered since the last snapshot, the snapshot shows what is rendered. -/
  saved : truncated = false → resized = false → h.session.output.sinceSnapshot = 0 →
    h.backend.snapshot? id config.snapshots.kind = none ∧ calls = [] ∨
    h.backend.snapshot? id config.snapshots.kind =
      some (SnapshotTimer.snapshotOf ⟨h.session.output, performAll display calls⟩)

section Steps

variable {display : σ} {id : Text} {config : Config} {truncated resized : Bool} {h : Host σ}
  {receiver : Receiver} {calls : List DisplayCall} {queue : List LogEvent} {seen : List UInt8}

/-! ### The log -/

theorem Tracks.append (t : Tracks display id config truncated resized h receiver calls queue seen)
    (data : List UInt8) :
    Tracks display id config truncated resized
      { h with backend := h.backend.append h.session.id data } receiver calls
      (queue ++ [.append (h.backend.log id).toList.length data]) seen := by
  have hr := t.receiver_session
  refine { t with delivers := ?_, follows := ?_, unbroken := ?_ }
  · rw [t.id_eq, ← hr]
    exact t.delivers.append data
  · rw [t.id_eq, Backend.log_append]
    exact t.follows.log_append data
  · intro ht e he
    rcases List.mem_append.1 he with he | he
    · exact t.unbroken ht e he
    · rw [List.mem_singleton.1 he]
      rfl

theorem Tracks.truncate
    (t : Tracks display id config truncated resized h receiver calls queue seen) :
    Tracks display id config true resized
      { h with backend := h.backend.truncate h.session.id } receiver calls
      (queue ++ [.truncate 0]) seen := by
  have hr := t.receiver_session
  refine { t with delivers := ?_, follows := ?_, unbroken := ?_, level := ?_, uncleared := ?_,
                  isWrite := ?_, saved := ?_ }
  · rw [t.id_eq, ← hr]
    exact t.delivers.truncate
  · rw [t.id_eq, Backend.log_truncate]
    exact t.follows.log_truncate
  all_goals simp

theorem Tracks.changeAll
    (t : Tracks display id config truncated resized h receiver calls queue seen)
    (changes : List LogChange) :
    ∃ queue', Tracks display id config (truncated || changes.contains .truncate) resized
      { h with backend := h.backend.changeAll h.session.id changes } receiver calls queue' seen := by
  induction changes generalizing truncated h queue with
  | nil => exact ⟨queue, by simpa [Backend.changeAll] using t⟩
  | cons change changes ih =>
    cases change with
    | append data =>
      obtain ⟨queue', t'⟩ := ih (t.append data)
      exact ⟨queue', by simpa [Backend.changeAll, Backend.change] using t'⟩
    | truncate =>
      obtain ⟨queue', t'⟩ := ih t.truncate
      exact ⟨queue', by simpa [Backend.changeAll, Backend.change] using t'⟩

/-! ### Notifications -/

theorem snapshotOf_congr {r r' : Rendering σ} (hs : r'.surface = r.surface)
    (hp : r'.output.position = r.output.position) :
    SnapshotTimer.snapshotOf r' = SnapshotTimer.snapshotOf r := by
  simp [SnapshotTimer.snapshotOf, hs, hp]

/-- A rendering that follows the log takes the place of the old one. -/
theorem Tracks.rendering
    (t : Tracks display id config truncated resized h receiver calls queue seen)
    {r : Rendering σ} {timer : SnapshotTimer} {b : Backend} {calls' : List DisplayCall}
    {queue' : List LogEvent} {seen' : List UInt8}
    (hsurface : r.surface = performAll (performAll display calls) calls')
    (hfollows : r.output.Follows .whole (DisplayCall.written (calls ++ calls')) seen' queue'
      (h.backend.log id).toList)
    (hloaded : r.output.loaded = false → h.session.output.loaded = false)
    (hmoves : Unbroken queue →
      Rendering.MovesOn ⟨h.session.output, performAll display calls⟩ r calls')
    (hqueue : Unbroken queue → Unbroken queue')
    (hdelivers : b.Delivers receiver queue') (hlogs : b.logs = h.backend.logs)
    (hsnapshots : b.snapshots = h.backend.snapshots) (hfailing : b.failing = h.backend.failing)
    (htimer : timer.settings = h.session.timer.settings) :
    Tracks display id config truncated resized
      ⟨{ h.session.withRendering r with timer }, b⟩ receiver (calls ++ calls') queue' seen' := by
  have hsnapshot : b.snapshot? id config.snapshots.kind =
      h.backend.snapshot? id config.snapshots.kind := by
    simp [Backend.snapshot?, hsnapshots]
  refine
    { id_eq := t.id_eq
      settings := htimer.trans t.settings
      live := t.live
      receiver_eq := t.receiver_eq
      receiver_session := t.receiver_session
      surface := ?_
      healthy := hfailing.trans t.healthy
      delivers := hdelivers
      follows := ?_
      unsaved := ?_
      unbroken := fun ht => hqueue (t.unbroken ht)
      level := ?_
      steady := t.steady
      uncleared := ?_
      isWrite := ?_
      saved := ?_ }
  · rw [performAll_append, ← hsurface]
    rfl
  · have hlog : b.log id = h.backend.log id := by simp [Backend.log, hlogs]
    rw [hlog]
    exact hfollows
  · intro hl
    rw [hsnapshot]
    exact t.unsaved (hloaded hl)
  · intro ht
    have hlevel := t.level ht
    have hrendered := (hmoves (t.unbroken ht)).rendered
    simp only [Session.withRendering] at hlevel hrendered ⊢
    omega
  · intro ht hc
    rcases List.mem_append.1 hc with hc | hc
    · exact t.uncleared ht hc
    · exact absurd ((hmoves (t.unbroken ht)).isWrite _ hc) (by simp [DisplayCall.isWrite])
  · intro ht hr c hc
    rcases List.mem_append.1 hc with hc | hc
    · exact t.isWrite ht hr c hc
    · exact (hmoves (t.unbroken ht)).isWrite c hc
  · intro ht hr hs
    -- Nothing was rendered, so the stored snapshot is still that of the display.
    obtain ⟨rfl, hp, hs'⟩ := (hmoves (t.unbroken ht)).idle hs
    rw [hsnapshot, List.append_nil]
    rcases t.saved ht hr hs' with hnone | hsome
    · exact .inl hnone
    · exact .inr (hsome.trans (congrArg some (snapshotOf_congr rfl hp.symm)))

theorem Tracks.processEvents
    (t : Tracks display id config truncated resized h receiver calls queue seen) :
    ∃ calls', Tracks display id config truncated resized (h.step .processEvents) receiver calls' []
        (h.backend.log id).toList ∧
      (h.step .processEvents).session.isLoaded = h.session.isLoaded := by
  obtain ⟨r, b, calls', hprocess, hkeeps, hs, hf, hl, hm⟩ :=
    Session.exists_processEvents t.surface t.receiver_eq t.delivers t.follows
  refine ⟨calls ++ calls', ?_⟩
  have hstep : h.step .processEvents =
      ⟨{ h.session.withRendering r with timer := h.session.timer }, b⟩ := by
    simp [step, hprocess, Session.withRendering]
  rw [hstep]
  exact ⟨t.rendering hs hf (fun h => hl.symm.trans h) hm (fun _ => by simp [Unbroken])
    (t.delivers.receiveAll.of_feeds_eq hkeeps.feeds) hkeeps.logs hkeeps.snapshots hkeeps.failing rfl,
    hl⟩

/-! ### Loading -/

theorem Tracks.loadHistory
    (t : Tracks display id config truncated resized h receiver calls queue seen) (now : Nat) :
    ∃ calls', Tracks display id config truncated resized
      ⟨(h.session.loadHistory h.backend now).1, (h.session.loadHistory h.backend now).2⟩
      receiver calls' queue seen := by
  by_cases hloaded : h.session.isLoaded
  · exact ⟨calls, by simpa [Session.loadHistory, hloaded] using t⟩
  · have hl : h.session.output.loaded = false := by simpa [Session.isLoaded] using hloaded
    obtain ⟨hw, hp⟩ := t.follows.untouched hl
    have hunsaved : h.backend.snapshot? h.session.id h.session.timer.settings.kind = none := by
      rw [t.id_eq, t.settings]
      exact t.unsaved hl
    obtain ⟨r, b, calls', hload, hkeeps, hs, hf, hl', hm⟩ := Session.exists_loadHistory [] t.surface
      hl t.healthy (t.id_eq ▸ t.follows) (Rendering.restored_of_no_snapshot t.healthy hunsaved)
      (fun _ => by simp [hw, hp, Showing.whole]) now
    rw [List.append_nil, t.id_eq] at hf
    refine ⟨calls ++ calls', ?_⟩
    rw [hload]
    exact t.rendering hs hf (fun h => absurd (hl'.symm.trans h) (by simp)) hm (fun h => h)
      (t.delivers.of_feeds_eq hkeeps.feeds) hkeeps.logs hkeeps.snapshots hkeeps.failing rfl

theorem Tracks.load
    (t : Tracks display id config truncated resized h receiver calls queue seen) (now : Nat)
    (meanwhile : List LogChange) :
    ∃ calls' queue' seen', Tracks display id config
      (truncated || meanwhile.contains .truncate) resized (h.step (.load now meanwhile))
      receiver calls' queue' seen' := by
  obtain ⟨calls₁, t₁, -⟩ := t.processEvents
  obtain ⟨queue₂, t₂⟩ := t₁.changeAll meanwhile
  obtain ⟨calls₃, t₃⟩ := t₂.loadHistory now
  refine ⟨calls₃, queue₂, (h.backend.log id).toList, ?_⟩
  have hid : (h.step .processEvents).session.id = h.session.id := t₁.id_eq.trans t.id_eq.symm
  have hstep : h.step (.load now meanwhile) =
      ⟨((h.step .processEvents).session.loadHistory
          ((h.step .processEvents).backend.changeAll h.session.id meanwhile) now).1,
        ((h.step .processEvents).session.loadHistory
          ((h.step .processEvents).backend.changeAll h.session.id meanwhile) now).2⟩ := by
    simp [step, Session.load, t.live]
  rw [hstep, ← hid]
  exact t₃

/-! ### Sizes -/

theorem written_resize (calls : List DisplayCall) (size : Size) :
    DisplayCall.written (calls ++ [.resize size]) = DisplayCall.written calls := by
  simp [DisplayCall.writtenAfter]

/-- Applying a size resizes the display at most once and only makes entries. -/
theorem exists_calls_apply (z : Resizing) (size : Size) (surface : σ) (b : Backend)
    (session : Text) :
    ∃ calls : List DisplayCall,
      (∀ cs, DisplayCall.written (cs ++ calls) = DisplayCall.written cs) ∧ .clear ∉ calls ∧
      (z.apply size surface b session).2.2.1 = performAll surface calls ∧
      b.Keeps (z.apply size surface b session).2.2.2 ∧
      (z.apply size surface b session).2.1.debouncer = z.debouncer := by
  have hkeeps (new : Size) (notified : Prop) [Decidable notified] :
      b.Keeps (if z.hasResized then (if notified then b.setSize session new else b)
        else ((if notified then b.setSize session new else b).resync session new).2) := by
    have hset : b.Keeps (if notified then b.setSize session new else b) := by
      split
      · exact Backend.keeps_setSize b session new
      · exact .refl b
    split
    · exact hset
    · exact hset.trans (Backend.keeps_resync _ session new)
  unfold Resizing.apply
  by_cases hp : size.isPositive
  · rw [if_pos hp]
    by_cases hsize : Display.size surface = size
    · exact ⟨[], by simp, by simp, if_pos hsize, hkeeps _ _, rfl⟩
    · exact ⟨[.resize size], (written_resize · size), by simp, if_neg hsize, hkeeps _ _, rfl⟩
  · rw [if_neg hp]
    exact ⟨[], by simp, by simp, rfl, .refl b, rfl⟩

/-- The display is resized and entries are made. -/
theorem Tracks.setSurface
    (t : Tracks display id config truncated resized h receiver calls queue seen)
    {surface : σ} {z : Resizing} {b : Backend} {calls' : List DisplayCall}
    (hsurface : surface = performAll (performAll display calls) calls')
    (hwritten : DisplayCall.written (calls ++ calls') = DisplayCall.written calls)
    (hclear : .clear ∉ calls') (hkeeps : h.backend.Keeps b) :
    Tracks display id config truncated true
      ⟨{ h.session with resizing := z, surface := some surface }, b⟩ receiver (calls ++ calls')
      queue seen where
  id_eq := t.id_eq
  settings := t.settings
  live := t.live
  receiver_eq := t.receiver_eq
  receiver_session := t.receiver_session
  surface := by rw [performAll_append, ← hsurface]
  healthy := hkeeps.failing.trans t.healthy
  delivers := t.delivers.of_feeds_eq hkeeps.feeds
  follows := by
    rw [hwritten, hkeeps.log_eq]
    exact t.follows
  unsaved hl := by
    rw [hkeeps.snapshot?_eq]
    exact t.unsaved hl
  unbroken := t.unbroken
  level := t.level
  steady := by simp
  uncleared ht hc := (List.mem_append.1 hc).elim (t.uncleared ht) hclear
  isWrite := by simp
  saved := by simp

theorem Tracks.fit
    (t : Tracks display id config truncated resized h receiver calls queue seen) (size : Size) :
    ∃ calls', Tracks display id config truncated true (h.step (.fit size)) receiver calls' queue
      seen := by
  obtain ⟨calls', hw, hc, hs, hk, -⟩ :=
    exists_calls_apply h.session.resizing size (performAll display calls) h.backend h.session.id
  refine ⟨calls ++ calls', ?_⟩
  simpa only [step, Session.fit, t.surface] using t.setSurface hs (hw calls) hc hk

theorem Tracks.requestSize
    (t : Tracks display id config truncated resized h receiver calls queue seen) (size : Size)
    (now : Nat) :
    Tracks display id config truncated true (h.step (.requestSize size now)) receiver calls queue
      seen := by
  simp only [step, Session.requestSize, t.live, Bool.false_eq_true, if_false]
  exact { t with live := rfl, steady := by simp, isWrite := by simp, saved := by simp }

/-! ### Timers -/

/-- Saving a snapshot brings the store up to date. -/
theorem Tracks.flush
    (t : Tracks display id config truncated resized h receiver calls queue seen) (force : Bool)
    (timer : SnapshotTimer) (htimer : timer.settings = h.session.timer.settings) :
    Tracks display id config truncated resized
      ⟨{ h.session.withRendering (h.session.timer.flush
          ⟨h.session.output, performAll display calls⟩ h.backend h.session.id force).2.1 with timer },
        (h.session.timer.flush ⟨h.session.output, performAll display calls⟩ h.backend
          h.session.id force).2.2⟩ receiver calls queue seen := by
  have hsettings := htimer.trans t.settings
  rcases h.session.timer.flush_cases ⟨h.session.output, performAll display calls⟩ t.healthy
    h.session.id force with hidle | ⟨hloaded, hflush⟩
  · rw [hidle]
    exact { t with settings := hsettings, surface := rfl }
  · rw [hflush, t.id_eq, t.settings]
    exact
      { id_eq := t.id_eq
        settings := hsettings
        live := t.live
        receiver_eq := t.receiver_eq
        receiver_session := t.receiver_session
        surface := rfl
        healthy := t.healthy
        delivers := t.delivers
        follows := ⟨t.follows.leads, t.follows.untouched, t.follows.held_le, t.follows.held_nil,
          t.follows.caughtUp⟩
        unsaved := fun h => absurd (hloaded.symm.trans h) (by simp)
        unbroken := t.unbroken
        level := t.level
        steady := t.steady
        uncleared := t.uncleared
        isWrite := t.isWrite
        saved := fun _ _ _ => .inr (by
          rw [Backend.snapshot?_storeSnapshot, if_pos rfl]
          rfl) }

/-- Polling applies a size only if one was asked for. -/
theorem Tracks.pollResizing
    (t : Tracks display id config truncated resized h receiver calls queue seen) (now : Nat) :
    ∃ calls', Tracks display id config truncated resized
      ⟨(h.session.pollResizing h.backend now).1, (h.session.pollResizing h.backend now).2⟩
      receiver calls' queue seen := by
  simp only [Session.pollResizing, t.surface, Resizing.poll]
  cases hpoll : h.session.resizing.debouncer.poll now with
  | mk value debouncer =>
    cases value with
    | none =>
      refine ⟨calls, ?_⟩
      simp only [← t.surface]
      exact t
    | some size =>
      obtain ⟨calls', hw, hc, hs, hk, -⟩ := exists_calls_apply
        { h.session.resizing with debouncer } size (performAll display calls) h.backend h.session.id
      refine ⟨calls ++ calls', ?_⟩
      -- A size that comes out was asked for before.
      have hresized : resized = true := by
        by_contra hne
        have hnone := t.steady (by simpa using hne)
        simp [Debouncer.poll, hnone] at hpoll
      subst hresized
      exact t.setSurface hs (hw calls) hc hk

theorem Tracks.pollSnapshots
    (t : Tracks display id config truncated resized h receiver calls queue seen) (now : Nat) :
    Tracks display id config truncated resized
      ⟨(h.session.pollSnapshots h.backend now).1, (h.session.pollSnapshots h.backend now).2⟩
      receiver calls queue seen := by
  simp only [Session.pollSnapshots, t.surface, SnapshotTimer.poll]
  split
  · exact t.flush false (h.session.timer.start now) rfl
  · exact { t with surface := rfl }

theorem Tracks.pollTimers
    (t : Tracks display id config truncated resized h receiver calls queue seen) (now : Nat) :
    ∃ calls', Tracks display id config truncated resized (h.step (.pollTimers now)) receiver calls'
      queue seen := by
  have t₀ : Tracks display id config truncated resized ⟨h.session.expirePaste now, h.backend⟩
      receiver calls queue seen := by
    unfold Session.expirePaste
    split
    · exact { t with }
    · exact t
  obtain ⟨calls', t₁⟩ := t₀.pollResizing now
  exact ⟨calls', t₁.pollSnapshots now⟩

/-! ### Runs -/

/-- Every step keeps what is true of a run; it brings a restart of the log or a new size only if
it says so. -/
theorem Tracks.step
    (t : Tracks display id config truncated resized h receiver calls queue seen) (s : HostStep) :
    ∃ calls' queue' seen', Tracks display id config (truncated || s.truncates)
      (resized || s.resizes) (h.step s) receiver calls' queue' seen' := by
  cases s with
  | log change =>
    cases change with
    | append data =>
      have t' := t.append data
      exact ⟨_, _, _, by
        simpa [HostStep.truncates, HostStep.resizes, Host.step, Backend.change] using t'⟩
    | truncate =>
      have t' := t.truncate
      exact ⟨_, _, _, by
        simpa [HostStep.truncates, HostStep.resizes, Host.step, Backend.change] using t'⟩
  | processEvents =>
    obtain ⟨calls', t', -⟩ := t.processEvents
    exact ⟨_, _, _, by simpa [HostStep.truncates, HostStep.resizes] using t'⟩
  | pollTimers now =>
    obtain ⟨calls', t'⟩ := t.pollTimers now
    exact ⟨_, _, _, by simpa [HostStep.truncates, HostStep.resizes] using t'⟩
  | load now meanwhile =>
    obtain ⟨calls', queue', seen', t'⟩ := t.load now meanwhile
    exact ⟨_, _, _, by simpa [HostStep.truncates, HostStep.resizes] using t'⟩
  | requestSize size now =>
    exact ⟨_, _, _, by
      simpa [HostStep.truncates, HostStep.resizes] using t.requestSize size now⟩
  | fit size =>
    obtain ⟨calls', t'⟩ := t.fit size
    exact ⟨_, _, _, by simpa [HostStep.truncates, HostStep.resizes] using t'⟩

/-- What is true before a run is true after it. -/
theorem Tracks.run
    (t : Tracks display id config truncated resized h receiver calls queue seen)
    (steps : List HostStep) :
    ∃ calls' queue' seen', Tracks display id config (truncated || steps.any HostStep.truncates)
      (resized || steps.any HostStep.resizes) (h.run steps) receiver calls' queue' seen' := by
  induction steps generalizing truncated resized h calls queue seen with
  | nil => exact ⟨calls, queue, seen, by simpa [Host.run] using t⟩
  | cons s steps ih =>
    obtain ⟨calls₁, queue₁, seen₁, t₁⟩ := t.step s
    obtain ⟨calls₂, queue₂, seen₂, t₂⟩ := ih t₁
    exact ⟨calls₂, queue₂, seen₂, by simpa [Host.run, Bool.or_assoc] using t₂⟩

end Steps

variable {id : Text} {config : Config} {b : Backend}

/-- A new session has seen the log as it is, and nothing waits. -/
theorem tracks_start (display : σ) (hf : b.failing = [])
    (hs : b.snapshot? id config.snapshots.kind = none) :
    Tracks display id config false false (start id display config b) (b.subscribe id).1 [] []
      (b.log id).toList where
  id_eq := rfl
  settings := rfl
  live := rfl
  receiver_eq := rfl
  receiver_session := rfl
  surface := rfl
  healthy := hf
  delivers := Backend.delivers_subscribe b id
  follows :=
    { leads := .refl _
      untouched := fun _ => ⟨rfl, rfl⟩
      held_le := by simp [start, Session.new]
      held_nil := by simp [start, Session.new]
      caughtUp := by simp [start, Session.new] }
  unsaved := fun _ => hs
  unbroken := by simp [Unbroken]
  level := fun _ => rfl
  steady := fun _ => rfl
  uncleared := by simp
  isWrite := by simp
  saved := fun _ _ _ => .inl ⟨hs, rfl⟩

/-- After every run the session tracks its log. -/
theorem exists_tracks_run (display : σ) (hf : b.failing = [])
    (hs : b.snapshot? id config.snapshots.kind = none) (steps : List HostStep) :
    ∃ calls queue seen, Tracks display id config (steps.any HostStep.truncates)
      (steps.any HostStep.resizes) ((start id display config b).run steps) (b.subscribe id).1
      calls queue seen := by
  simpa using (tracks_start display hf hs).run steps

section CaughtUp

variable {σ : Type} [Display σ] {display : σ} {truncated resized : Bool} {h : Host σ}
  {receiver : Receiver} {calls : List DisplayCall} {queue : List LogEvent} {seen : List UInt8}

theorem Tracks.waiting_eq
    (t : Tracks display id config truncated resized h receiver calls queue seen) :
    h.waiting = queue := by
  simp only [waiting, t.receiver_eq]
  exact t.delivers.waiting

/-- A session that has caught up has its display written the log, and its position at the end. -/
theorem Tracks.caughtUp
    (t : Tracks display id config truncated resized h receiver calls queue seen)
    (hc : h.CaughtUp) :
    DisplayCall.written calls = h.log ∧ h.session.output.position = h.log.length := by
  obtain ⟨hloaded, hwaiting⟩ := hc
  obtain rfl := t.waiting_eq.symm.trans hwaiting
  obtain ⟨hle, hlog, hw⟩ := t.follows.caughtUp hloaded (by simp [Unbroken])
  obtain rfl := t.follows.leads.eq_of_nil
  have hp : h.session.output.position = (h.backend.log id).toList.length := by omega
  rw [log, t.id_eq]
  exact ⟨by rw [hw, hp, List.take_length], hp⟩

/-- A session that has caught up catches up with what comes next. -/
theorem Tracks.caughtUp_append
    (t : Tracks display id config truncated resized h receiver calls queue seen)
    (hc : h.CaughtUp) (data : List UInt8) :
    ((h.step (.log (.append data))).step .processEvents).CaughtUp ∧
      ((h.step (.log (.append data))).step .processEvents).log = h.log ++ data := by
  have hstep : h.step (.log (.append data)) =
      { h with backend := h.backend.append h.session.id data } := rfl
  obtain ⟨calls', t', hloaded⟩ := (t.append data).processEvents
  rw [hstep]
  refine ⟨⟨hloaded.trans hc.1, t'.waiting_eq⟩, ?_⟩
  rw [log, t'.id_eq, ← t'.follows.leads.eq_of_nil, log, t.id_eq, ← Backend.log_append]

end CaughtUp

end Host

end TermSession
