import TermSession.Proofs.Session.Host

/-!
# What is shown of a log

A session shows the log from its start, or a snapshot that another session took while it showed the
log up to an earlier position, and what came after.

* `Shown`: the bytes that show a log up to a position; `Showing.shown`;
* `Snapshot.Shows`: a snapshot of a display that showed the log up to the snapshot's offset;
* `Session.Attends`: a session that follows its log;
* `Attends.change`, `Attends.processEvents`, `Attends.loadHistory`, `Attends.shows_snapshotOf`.
-/

namespace TermSession

open Display

variable {σ : Type} [Display σ]

/-- The bytes show a log up to a position.  Either they are the log from its start, or a snapshot
that a display was taken which showed the log up to an earlier position, and the log from there on.
Displays are made such as `made` says. -/
inductive Shown (made : σ → Prop) (log : List UInt8) : List UInt8 → Nat → Prop
  | read {p : Nat} (hp : p ≤ log.length) : Shown made log (log.take p) p
  | restored {display : σ} {calls : List DisplayCall} {p q : Nat} (hd : made display)
      (h : Shown made log (DisplayCall.written calls) p) (hpq : p ≤ q) (hq : q ≤ log.length) :
      Shown made log (Utf8.encode (transcript (performAll display calls)) ++ stretch log p q) q

/-- The snapshot was taken of a display that showed the log up to the snapshot's offset. -/
def Snapshot.Shows (made : σ → Prop) (log : List UInt8) (s : Snapshot) : Prop :=
  ∃ (display : σ) (calls : List DisplayCall), made display ∧
    s.data = transcript (performAll display calls) ∧
    Shown made log (DisplayCall.written calls) s.offset

namespace Shown

variable {made : σ → Prop} {log written : List UInt8} {p q : Nat}

theorem le_length (h : Shown made log written p) : p ≤ log.length := by
  cases h <;> assumption

/-- Output that comes later changes nothing of what is shown. -/
theorem grow (h : Shown made log written p) (data : List UInt8) :
    Shown made (log ++ data) written p := by
  have hle {n : Nat} (hn : n ≤ log.length) : n ≤ (log ++ data).length := by
    rw [List.length_append]
    omega
  have htake {n : Nat} (hn : n ≤ log.length) : (log ++ data).take n = log.take n :=
    List.take_append_of_le_length hn
  induction h with
  | read hp =>
    rw [← htake hp]
    exact .read (hle hp)
  | @restored display calls p q hd _ hpq hq ih =>
    -- The snapshot and what followed it lie inside the old log.
    have hstretch : stretch log p q = stretch (log ++ data) p q := by
      rw [stretch, stretch, htake hq]
    rw [hstretch]
    exact .restored hd ih hpq (hle hq)

/-- Writing more of the log moves the position on. -/
theorem extend (h : Shown made log written p) (hpq : p ≤ q) (hq : q ≤ log.length) :
    Shown made log (written ++ stretch log p q) q := by
  cases h with
  | read hp =>
    have hstart : log.take p ++ stretch log p q = log.take q :=
      stretch_append (Nat.zero_le p) hpq hq
    rw [hstart]
    exact .read hq
  | restored hd hshown hle hp =>
    rw [List.append_assoc, stretch_append hle hpq hq]
    exact .restored hd hshown (Nat.le_trans hle hpq) hq

end Shown

/-- The display shows the log as displays do that may start from snapshots. -/
def Showing.shown (made : σ → Prop) : Showing where
  Holds := Shown made
  empty log := .read (Nat.zero_le log.length)
  grow data _ h := h.grow data
  extend hpq hq h := h.extend hpq hq

theorem Snapshot.Shows.grow {made : σ → Prop} {log : List UInt8} {s : Snapshot}
    (h : s.Shows made log) (data : List UInt8) : s.Shows made (log ++ data) := by
  obtain ⟨display, calls, hd, hdata, hshown⟩ := h
  exact ⟨display, calls, hd, hdata, hshown.grow data⟩

/-! ### Starting from a snapshot -/

namespace Rendering

/-- A snapshot is written whole, whatever its size. -/
theorem exists_calls_applySnapshot (r : Rendering σ) (s : Snapshot) :
    ∃ calls : List DisplayCall, (r.applySnapshot s).surface = performAll r.surface calls ∧
      ∀ cs, DisplayCall.written (cs ++ calls) = DisplayCall.written cs ++ Utf8.encode s.data := by
  unfold applySnapshot
  dsimp only
  split
  · rename_i size _
    refine ⟨[.resize size, .write (Utf8.encode s.data), .resize (Display.size r.surface)], rfl,
      fun cs => ?_⟩
    simp [DisplayCall.written, DisplayCall.writtenAfter]
  · exact ⟨[.write (Utf8.encode s.data)], rfl, fun cs => by
      simp [DisplayCall.writtenAfter]⟩

omit [Display σ] in
theorem snapshot?_of_startingSnapshot? {r : Rendering σ} {b : Backend} {session kind : Text}
    {s : Snapshot} (hf : b.failing = []) (h : r.startingSnapshot? b session kind = some s) :
    r.output.snapshotStale = false ∧ b.snapshot? session kind = some s := by
  cases hstale : r.output.snapshotStale with
  | true => simp [startingSnapshot?, hstale] at h
  | false =>
    cases hs : b.snapshot? session kind with
    | none => simp [startingSnapshot?, Backend.fetchSnapshot, Backend.fails, hstale, hf, hs] at h
    | some s' =>
      simp only [startingSnapshot?, Backend.fetchSnapshot, Backend.fails, hstale, hf, hs] at h
      by_cases hempty : s'.isEmpty <;> simp_all

/-- What is restored is shown, if the stored snapshot shows the log or is not used. -/
theorem exists_calls_restored {τ : Type} [Display τ] (made : σ → Prop) (log : List UInt8)
    {r : Rendering τ} {b : Backend} (session kind : Text) (hf : b.failing = [])
    (hp : r.output.position = 0) :
    ∃ calls : List DisplayCall,
      (r.restored b session kind).surface = performAll r.surface calls ∧
      ((r.output.snapshotStale = false →
          ∀ s ∈ b.snapshot? session kind, s.Shows made log) →
        ∀ cs, DisplayCall.written cs = [] → Shown made log (DisplayCall.written (cs ++ calls))
          (r.restored b session kind).output.position) := by
  unfold restored
  cases hstart : r.startingSnapshot? b session kind with
  | none =>
    refine ⟨[], rfl, fun _ cs hcs => ?_⟩
    rw [List.append_nil, hcs, hp]
    exact .read (Nat.zero_le _)
  | some s =>
    obtain ⟨hstale, hs⟩ := snapshot?_of_startingSnapshot? hf hstart
    obtain ⟨calls, hsurface, hwritten⟩ := r.exists_calls_applySnapshot s
    refine ⟨calls, hsurface, fun hshows cs hcs => ?_⟩
    obtain ⟨display, calls', hd, hdata, hshown⟩ := hshows hstale s hs
    have hrestored := Shown.restored hd hshown (Nat.le_refl _) hshown.le_length
    rw [stretch_self, List.append_nil, ← hdata] at hrestored
    rw [hwritten, hcs, List.nil_append]
    exact hrestored

end Rendering

/-! ### One session -/

namespace Session

/-- The session is live, `queue` waits at its receiver, and what its display was written follows the
log. -/
structure Attends (made : σ → Prop) (id : Text) (config : Config) (b : Backend)
    (s : Session (Recorder σ)) (receiver : Receiver) (queue : List LogEvent) : Prop where
  id_eq : s.id = id
  settings : s.timer.settings = config.snapshots
  live : s.disposed = false
  receiver_eq : s.receiver = some receiver
  receiver_session : receiver.session = id
  delivers : b.Delivers receiver queue
  follows : ∃ (display : σ) (calls : List DisplayCall) (seen : List UInt8), made display ∧
    s.surface = some (performAll { display } calls) ∧
    s.output.Follows (.shown made) (DisplayCall.written calls) seen queue (b.log id).toList

variable {made : σ → Prop} {id : Text} {config : Config} {b b' : Backend}
  {s : Session (Recorder σ)} {receiver : Receiver} {queue : List LogEvent}

/-- A new session has nothing to show yet. -/
theorem attends_new (made : σ → Prop) (id : Text) (config : Config) (b : Backend) {display : σ}
    (hd : made display) :
    (Session.new id ({ display } : Recorder σ) config b).1.Attends made id config
      (Session.new id ({ display } : Recorder σ) config b).2 (b.subscribe id).1 [] where
  id_eq := rfl
  settings := rfl
  live := rfl
  receiver_eq := rfl
  receiver_session := rfl
  delivers := Backend.delivers_subscribe b id
  follows := ⟨display, [], (b.log id).toList, hd, rfl,
    { leads := .refl _
      untouched := fun _ => ⟨rfl, rfl⟩
      held_le := by simp [Session.new]
      held_nil := by simp [Session.new]
      caughtUp := by simp [Session.new] }⟩

namespace Attends

theorem waiting_eq (a : s.Attends made id config b receiver queue) :
    Host.waiting ⟨s, b⟩ = queue := by
  simp only [Host.waiting, a.receiver_eq]
  exact a.delivers.waiting

/-- Changes of a backend that are about others. -/
theorem of_backend (a : s.Attends made id config b receiver queue)
    (hlog : b'.log id = b.log id) (hdelivers : b'.Delivers receiver queue) :
    s.Attends made id config b' receiver queue :=
  { a with
    delivers := hdelivers
    follows := by
      rw [hlog]
      exact a.follows }

/-- What counts the bytes since the last snapshot has nothing to do with what is shown. -/
theorem resetSinceSnapshot (a : s.Attends made id config b receiver queue) :
    ({ s with output := s.output.resetSinceSnapshot } : Session (Recorder σ)).Attends made id config b
      receiver queue :=
  { a with
    follows := by
      obtain ⟨display, calls, seen, hd, hs, hf⟩ := a.follows
      exact ⟨display, calls, seen, hd, hs, ⟨hf.leads, hf.untouched, hf.held_le, hf.held_nil,
        hf.caughtUp⟩⟩ }

/-- The log changes. -/
theorem change (a : s.Attends made id config b receiver queue) (c : LogChange) :
    ∃ queue', s.Attends made id config (b.change id c) receiver queue' := by
  obtain ⟨display, calls, seen, hd, hs, hf⟩ := a.follows
  have hdelivers := a.delivers
  have hsession := a.receiver_session
  cases c with
  | append data =>
    refine ⟨queue ++ [.append (b.log id).toList.length data], { a with
      delivers := ?_, follows := ⟨display, calls, seen, hd, hs, ?_⟩ }⟩
    · rw [← hsession]
      exact hdelivers.append data
    · simp only [Backend.change, Backend.log_append]
      exact hf.log_append data
  | truncate =>
    refine ⟨queue ++ [.truncate 0], { a with
      delivers := ?_, follows := ⟨display, calls, seen, hd, hs, ?_⟩ }⟩
    · rw [← hsession]
      exact hdelivers.truncate
    · simp only [Backend.change, Backend.log_truncate]
      exact hf.log_truncate

/-- The rendering moves on to where it follows the log again. -/
theorem rendering (a : s.Attends made id config b receiver queue) {display : σ}
    {calls calls' : List DisplayCall} {seen : List UInt8} {queue' : List LogEvent}
    {r : Rendering (Recorder σ)} {timer : SnapshotTimer} (hd : made display)
    (hs : r.surface = performAll (performAll ({ display } : Recorder σ) calls) calls')
    (hf : r.output.Follows (.shown made) (DisplayCall.written (calls ++ calls')) seen queue'
      (b.log id).toList)
    (ht : timer.settings = s.timer.settings) (hlogs : b'.logs = b.logs)
    (hdelivers : b'.Delivers receiver queue') :
    ({ s.withRendering r with timer } : Session (Recorder σ)).Attends made id config b' receiver
      queue' where
  id_eq := a.id_eq
  settings := ht.trans a.settings
  live := a.live
  receiver_eq := a.receiver_eq
  receiver_session := a.receiver_session
  delivers := hdelivers
  follows := by
    refine ⟨display, calls ++ calls', seen, hd, ?_, ?_⟩
    · rw [performAll_append, ← hs]
      rfl
    · have hlog : b'.log id = b.log id := by simp [Backend.log, hlogs]
      rw [hlog]
      exact hf

/-- A session that has taken every notification. -/
theorem processEvents (a : s.Attends made id config b receiver queue) :
    (s.processEvents b).2.1.Attends made id config (s.processEvents b).2.2 receiver [] ∧
      b.AltersOnly (some receiver) (s.processEvents b).2.2 ∧
      (s.processEvents b).2.2.snapshots = b.snapshots := by
  obtain ⟨display, calls, seen, hd, hs, hf⟩ := a.follows
  obtain ⟨r, b', calls', hprocess, hkeeps, hsurface, hfollows, -, -⟩ :=
    exists_processEvents hs a.receiver_eq a.delivers hf
  have hreceived : b.AltersOnly (some receiver) (b.receiveAll receiver).2 :=
    Backend.altersOnly_updateSubscriber b receiver _
  rw [hprocess]
  exact ⟨a.rendering hd hsurface hfollows rfl hkeeps.logs
    (a.delivers.receiveAll.of_feeds_eq hkeeps.feeds),
    hreceived.trans (hkeeps.altersOnly _), hkeeps.snapshots⟩

/-- Loading shows the log, if the stored snapshot does or is not used, or if a restart waits. -/
theorem loadHistory (a : s.Attends made id config b receiver queue) (now : Nat)
    (hf : b.failing = [])
    (hfresh : s.output.loaded = false → s.output.snapshotStale = false → Unbroken queue →
      ∀ t ∈ b.snapshot? id config.snapshots.kind, t.Shows made (b.log id).toList) :
    (s.loadHistory b now).1.Attends made id config (s.loadHistory b now).2 receiver queue ∧
      b.Keeps (s.loadHistory b now).2 := by
  obtain ⟨display, calls, seen, hd, hs, hfollows⟩ := a.follows
  by_cases hloaded : s.isLoaded
  · simp only [Session.loadHistory, hloaded, if_true]
    exact ⟨a, .refl b⟩
  · have hl : s.output.loaded = false := by simpa [isLoaded] using hloaded
    obtain ⟨hw, hp⟩ := hfollows.untouched hl
    have hkind : s.timer.settings.kind = config.snapshots.kind := by rw [a.settings]
    obtain ⟨calls₀, hsurface₀, hshown⟩ := Rendering.exists_calls_restored made (b.log id).toList
      (r := ⟨s.output, performAll ({ display } : Recorder σ) calls⟩) s.id s.timer.settings.kind hf hp
    rw [a.id_eq, hkind] at hshown
    -- What is restored is shown, and the rest of the log is written after it.
    obtain ⟨r, b', calls', hload, hkeeps, hsurface, hfollows', -, -⟩ :=
      exists_loadHistory calls₀ hs hl hf (a.id_eq ▸ hfollows) rfl (fun hu => by
        have hstart := hshown (fun hstale => hfresh hl hstale hu) calls hw
        rw [a.id_eq, hkind]
        exact ⟨hstart.le_length, hstart⟩) now
    rw [List.append_assoc, a.id_eq] at hfollows'
    rw [hsurface₀, ← performAll_append] at hsurface
    rw [hload]
    exact ⟨a.rendering hd hsurface hfollows' rfl hkeeps.logs (a.delivers.of_feeds_eq hkeeps.feeds),
      hkeeps⟩

/-- A snapshot of a session shows the log, unless a restart waits for it. -/
theorem shows_snapshotOf (a : s.Attends made id config b receiver queue) {r : Recorder σ}
    (hs : s.surface = some r) (hl : s.output.loaded = true) (hu : Unbroken queue) :
    (SnapshotTimer.snapshotOf ⟨s.output, r⟩).Shows made (b.log id).toList := by
  obtain ⟨display, calls, seen, hd, hs', hf⟩ := a.follows
  obtain rfl : r = performAll { display } calls := Option.some.inj (hs.symm.trans hs')
  refine ⟨display, calls, hd, ?_, (hf.caughtUp hl hu).2.2⟩
  rw [Recorder.performAll_recorder]
  rfl

/-- A session that is loaded shows the log once it has taken every notification. -/
theorem shown (a : s.Attends made id config b receiver []) (hl : s.output.loaded = true) :
    ∃ r, s.surface = some r ∧ Shown made (b.log id).toList r.written (b.log id).toList.length := by
  obtain ⟨display, calls, seen, hd, hs, hf⟩ := a.follows
  obtain ⟨hle, hlog, hshown⟩ := hf.caughtUp hl (by simp [Unbroken])
  obtain rfl := hf.leads.eq_of_nil
  have hp : s.output.position = (b.log id).toList.length := Nat.le_antisymm hlog hle
  change Shown made (b.log id).toList (DisplayCall.written calls) s.output.position at hshown
  refine ⟨_, hs, ?_⟩
  rw [Recorder.performAll_recorder, ← hp]
  exact hshown

end Attends

end Session

end TermSession
