import TermSession.Proofs.Session.Hearing

/-!
# What saved snapshots cover

A snapshot says up to which position it covers the log.  It was taken from a display; this module
is about what that display had been written by then, in runs in which any call may fail at any time.

* `Covers`: what a display was written covers a log up to a position;
* `Bridges`: chunks that wait take a stream to the end of its log without a gap;
* `Rendering.covers_appendAll`, `Rendering.exists_covers_load`: reading on, and loading;
* `Session.exists_stores_perform`: what a call stores;
* `Host.Misleads`: loading without the log, and without a snapshot that makes up for it;
* `Host.saved_covers`: what is stored in a run without that covers the log.
-/

namespace TermSession

open Display

/-! ### Covering a log -/

/-- A display was written the text of a snapshot, if it was loaded from one, and then what the log
has from where, at the latest, the snapshot ends up to the position `p`. -/
def Covers (t : Option Snapshot) (log written : List UInt8) (p : Nat) : Prop :=
  ∃ j, j ≤ t.elim 0 Snapshot.offset ∧ j ≤ p ∧ (j < p → p ≤ log.length) ∧
    written = Utf8.encode (t.elim [] Snapshot.data) ++ stretch log j p

namespace Covers

variable {t : Option Snapshot} {log written : List UInt8} {p q : Nat}

/-- Right after the snapshot. -/
theorem restored (log : List UInt8) (hp : p ≤ t.elim 0 Snapshot.offset) :
    Covers t log (Utf8.encode (t.elim [] Snapshot.data)) p :=
  ⟨p, hp, Nat.le_refl p, fun h => absurd h (Nat.lt_irrefl p), by simp⟩

theorem grow (h : Covers t log written p) (data : List UInt8) :
    Covers t (log ++ data) written p := by
  obtain ⟨j, hj, hjp, hp, rfl⟩ := h
  refine ⟨j, hj, hjp, ?_, ?_⟩
  · intro hlt
    rw [List.length_append]
    exact Nat.le_add_right_of_le (hp hlt)
  · rcases Nat.eq_or_lt_of_le hjp with rfl | hlt
    · simp
    · rw [stretch, stretch, List.take_append_of_le_length (hp hlt)]

theorem extend (h : Covers t log written p) (hpq : p ≤ q) (hq : p < q → q ≤ log.length) :
    Covers t log (written ++ stretch log p q) q := by
  rcases Nat.eq_or_lt_of_le hpq with rfl | hlt
  · rwa [stretch_self, List.append_nil]
  · obtain ⟨j, hj, hjp, -, rfl⟩ := h
    refine ⟨j, hj, Nat.le_trans hjp hpq, fun _ => hq hlt, ?_⟩
    rw [List.append_assoc, stretch_append hjp hpq (hq hlt)]

end Covers

/-! ### Bridging what is left -/

/-- Chunks are pieces of a log, and take a stream from the position `p` to the log's end without
a gap. -/
structure Bridges (p : Nat) (chunks : List Chunk) (log : List UInt8) : Prop where
  pieces : ∀ c ∈ chunks, c.IsPieceOf log
  gapless : Gapless p chunks
  length_le : log.length ≤ reach p chunks

theorem reach_mono {p q : Nat} (h : p ≤ q) (chunks : List Chunk) :
    reach p chunks ≤ reach q chunks := by
  induction chunks generalizing p q with
  | nil => exact h
  | cons c chunks ih => exact ih (show max p c.stop ≤ max q c.stop by omega)

theorem Gapless.mono {p q : Nat} {chunks : List Chunk} (h : Gapless p chunks) (hpq : p ≤ q) :
    Gapless q chunks := by
  induction chunks generalizing p q with
  | nil => trivial
  | cons c chunks ih => exact ⟨Nat.le_trans h.1 hpq, ih h.2 (by omega)⟩

namespace Bridges

variable {p q : Nat} {chunks chunks' : List Chunk} {log : List UInt8}

theorem nil (h : log.length ≤ p) : Bridges p [] log := ⟨by simp, trivial, h⟩

/-- A stream that is further on already. -/
theorem mono (h : Bridges p chunks log) (hpq : p ≤ q) : Bridges q chunks log :=
  ⟨h.pieces, h.gapless.mono hpq, Nat.le_trans h.length_le (reach_mono hpq chunks)⟩

/-- New output of which the stream is told. -/
theorem append_last (h : Bridges p chunks log) (data : List UInt8) :
    Bridges p (chunks ++ [⟨log.length, data⟩]) (log ++ data) where
  pieces := by
    intro c hc
    rcases List.mem_append.1 hc with hc | hc
    · have hpiece : c.data <+: log.drop c.offset := h.pieces c hc
      refine hpiece.trans ?_
      rw [List.drop_append]
      exact List.prefix_append _ _
    · rw [List.mem_singleton.1 hc]
      exact ⟨[], by rw [List.append_nil, List.drop_left]⟩
  gapless := gapless_append.2 ⟨h.gapless, h.length_le, trivial⟩
  length_le := by
    rw [reach_append, List.length_append]
    exact Nat.le_max_right _ _

/-- When the first chunks are read, the others bridge what is left. -/
theorem of_append (h : Bridges p (chunks ++ chunks') log) :
    Bridges (reach p chunks) chunks' log where
  pieces c hc := h.pieces c (List.mem_append_right _ hc)
  gapless := (gapless_append.1 h.gapless).2
  length_le := by
    rw [← reach_append]
    exact h.length_le

end Bridges

/-! ### Renderings -/

namespace Rendering

variable {σ : Type} [Display σ] {t : Option Snapshot} {log : List UInt8}

/-- Has what the display was written covered the log up to the stream's position? -/
def HasCovered (r : Rendering (Recorder σ)) (t : Option Snapshot) (log : List UInt8) : Prop :=
  Covers t log r.surface.written r.output.position

theorem render_written (r : Rendering (Recorder σ)) (data : List UInt8) :
    (r.render data).1.surface.written = r.surface.written ++ data := by
  cases data with
  | nil => exact (List.append_nil _).symm
  | cons a data => rfl

/-- A chunk that leaves no gap is read from the position on. -/
theorem covers_append {r : Rendering (Recorder σ)} (h : r.HasCovered t log) {c : Chunk}
    (hc : c.IsPieceOf log) (hgap : c.offset ≤ r.output.position) :
    (r.append c).1.HasCovered t log ∧
      (r.append c).1.output.position = max r.output.position c.stop := by
  by_cases hold : c.stop ≤ r.output.position
  · have happend : r.append c = (r, []) := if_pos hold
    rw [happend, Nat.max_eq_left hold]
    exact ⟨h, rfl⟩
  · have hnew : r.output.position < c.stop := Nat.not_le.1 hold
    -- A chunk with something new in it starts inside the log.
    have hstop : c.stop ≤ log.length := by
      have hlength := hc.length_le
      rw [List.length_drop] at hlength
      unfold Chunk.stop at hnew ⊢
      omega
    have hposition : (r.append c).1.output.position = c.stop := by
      rw [append_fst_of_le _ _ hgap, hc.drop_eq hgap, render_fst, length_stretch hstop]
      exact Nat.add_sub_cancel' (Nat.le_of_lt hnew)
    refine ⟨?_, by rw [hposition, Nat.max_eq_right (Nat.le_of_lt hnew)]⟩
    unfold HasCovered
    rw [hposition, append_fst_of_le _ _ hgap, hc.drop_eq hgap, render_written]
    exact Covers.extend h (Nat.le_of_lt hnew) fun _ => hstop

theorem covers_appendAll {r : Rendering (Recorder σ)} (h : r.HasCovered t log) {chunks : List Chunk}
    (hc : ∀ c ∈ chunks, c.IsPieceOf log) (hgap : Gapless r.output.position chunks) :
    (r.appendAll chunks).1.HasCovered t log ∧
      (r.appendAll chunks).1.output.position = reach r.output.position chunks := by
  induction chunks generalizing r with
  | nil => exact ⟨h, rfl⟩
  | cons c chunks ih =>
    obtain ⟨hfirst, hposition⟩ := covers_append h (hc c List.mem_cons_self) hgap.1
    obtain ⟨hrest, hposition'⟩ := ih hfirst (fun c h => hc c (List.mem_cons_of_mem _ h))
      (by rw [hposition]; exact hgap.2)
    rw [appendAll_cons, reach_cons, ← hposition]
    exact ⟨hrest, hposition'⟩

/-- The snapshot is written whole. -/
theorem applySnapshot_written (r : Rendering (Recorder σ)) (s : Snapshot) :
    (r.applySnapshot s).surface.written = r.surface.written ++ Utf8.encode s.data := by
  unfold applySnapshot
  dsimp only
  split <;> rfl

/-- A stream that has rendered nothing starts from its snapshot. -/
theorem restored_eq {r : Rendering (Recorder σ)} (hw : r.surface.written = [])
    (hp : r.output.position = 0) (b : Backend) (session kind : Text) :
    (r.restored b session kind).output.position =
        (r.startingSnapshot? b session kind).elim 0 Snapshot.offset ∧
      (r.restored b session kind).surface.written =
        Utf8.encode ((r.startingSnapshot? b session kind).elim [] Snapshot.data) := by
  unfold restored
  cases r.startingSnapshot? b session kind with
  | none => exact ⟨hp, hw⟩
  | some s => exact ⟨rfl, by rw [applySnapshot_written, hw]; rfl⟩

/-- The end of the log takes the stream there, also if the snapshot reaches beyond it. -/
theorem covers_applyTail (log : List UInt8) {r : Rendering (Recorder σ)}
    (hp : r.output.position = t.elim 0 Snapshot.offset)
    (hw : r.surface.written = Utf8.encode (t.elim [] Snapshot.data)) {m : Nat}
    (hm : m = min r.output.position log.length) :
    (r.applyTail ⟨m, log.drop m⟩).HasCovered t log ∧
      (r.applyTail ⟨m, log.drop m⟩).output.position = log.length ∧
      (r.applyTail ⟨m, log.drop m⟩).output.held = r.output.held := by
  have hposition : (r.applyTail ⟨m, log.drop m⟩).output.position = log.length := by
    rw [applyTail, render_fst]
    simp only [List.length_drop]
    omega
  refine ⟨?_, hposition, by rw [applyTail, render_fst]⟩
  have hrest : log.drop m = stretch log m log.length := by rw [stretch, List.take_length]
  rw [HasCovered, hposition, applyTail, render_written, hrest]
  simp only [hw]
  exact (Covers.restored log (by omega)).extend (by omega) fun _ => Nat.le_refl _

/-- A stream that has rendered nothing and loads has covered the log as far as it has come, and
leaves no gap behind `base`, if the log can be read or the snapshot reaches that far. -/
theorem covers_load {r : Rendering (Recorder σ)} {b : Backend} {session kind : Text} {base : Nat}
    (hl : r.output.loaded = false) (hw : r.surface.written = []) (hp : r.output.position = 0)
    (hlog : (b.log session).toList = log) (hbase : base ≤ log.length)
    (hread : b.fails .fetchFile = true →
      base ≤ (r.startingSnapshot? b session kind).elim 0 Snapshot.offset)
    (hheld : ∀ c ∈ r.output.held, c.IsPieceOf log) (hgap : Gapless base r.output.held) :
    (r.load b session kind).1.HasCovered (r.startingSnapshot? b session kind) log ∧
      reach base r.output.held ≤ (r.load b session kind).1.output.position ∧
      (r.load b session kind).1.output.loaded = true := by
  obtain ⟨hposition₀, hwritten₀⟩ := restored_eq hw hp b session kind
  have hheld₀ := restored_held r b session kind
  generalize r.startingSnapshot? b session kind = t at *
  -- What is there before what was held back.
  obtain ⟨r₁, hcovers₁, hbase₁, hheld₁, hload⟩ : ∃ r₁ : Rendering (Recorder σ),
      r₁.HasCovered t log ∧ base ≤ r₁.output.position ∧ r₁.output.held = r.output.held ∧
      (r.load b session kind).1 = (Rendering.appendAll { r₁ with
        output := { r₁.output with loaded := true, held := [], snapshotStale := false } }
        r₁.output.held).1 := by
    unfold load
    rw [if_neg (by simp [hl])]
    simp only [Backend.fetchLog, Backend.fetchFile]
    generalize r.restored b session kind = r₀ at *
    have hcovers₀ : r₀.HasCovered t log := by
      rw [HasCovered, hwritten₀]
      exact Covers.restored log (Nat.le_of_eq hposition₀)
    cases hf : b.fails .fetchFile with
    | true => exact ⟨r₀, hcovers₀, hposition₀ ▸ hread hf, hheld₀, rfl⟩
    | false =>
      cases hfind : b.logs.find? session with
      | none =>
        have hempty : log = [] := by simp [← hlog, Backend.log, hfind]
        subst hempty
        exact ⟨r₀, hcovers₀, Nat.le_trans hbase (Nat.zero_le _), hheld₀, rfl⟩
      | some stored =>
        have hstored : stored.toList = log := by simp [← hlog, Backend.log, hfind]
        obtain ⟨hcovers₁, hposition₁, hheld₁⟩ := covers_applyTail log hposition₀ hwritten₀ rfl
        refine ⟨_, hcovers₁, le_of_le_of_eq hbase hposition₁.symm, hheld₁.trans hheld₀, ?_⟩
        simp [OutputLog.since, ← hstored]
  obtain ⟨hcovers, hposition⟩ := covers_appendAll (r := { r₁ with
      output := { r₁.output with loaded := true, held := [], snapshotStale := false } }) hcovers₁
    hheld (hgap.mono hbase₁)
  obtain ⟨-, -, -, hloaded, -⟩ := exists_calls_appendAll ({ r₁ with
      output := { r₁.output with loaded := true, held := [], snapshotStale := false } } :
    Rendering (Recorder σ)) r.output.held
  rw [hload, hheld₁]
  exact ⟨hcovers, by rw [hposition]; exact reach_mono hbase₁ _, hloaded⟩

end Rendering

/-! ### What a call stores -/

namespace Backend

/-- `saved`, if it is anything, was stored as the snapshot of a session and a kind, and nothing else
was stored. -/
structure Stores (b b' : Backend) (session kind : Text) (saved : Option Snapshot) : Prop where
  snapshot_eq : b'.snapshot? session kind = saved.or (b.snapshot? session kind)
  others : ∀ session' kind', (session', kind') ≠ (session, kind) →
    b'.snapshot? session' kind' = b.snapshot? session' kind'

variable {b b' : Backend}

theorem stores_none (h : b'.snapshots = b.snapshots) (session kind : Text) :
    b.Stores b' session kind none where
  snapshot_eq := by simp [snapshot?, h]
  others session' kind' _ := by simp [snapshot?, h]

theorem Stores.of_snapshots_eq {b₀ : Backend} {session kind : Text} {saved : Option Snapshot}
    (h : b.Stores b' session kind saved) (hb : b.snapshots = b₀.snapshots) :
    b₀.Stores b' session kind saved where
  snapshot_eq := by
    rw [h.snapshot_eq]
    simp [snapshot?, hb]
  others session' kind' hne := by
    rw [h.others session' kind' hne]
    simp [snapshot?, hb]

/-- What is new was stored. -/
theorem Stores.mem_of_ne {session kind : Text} {saved : Option Snapshot} {s : Snapshot}
    (h : b.Stores b' session kind saved) (hs : b'.snapshot? session kind = some s)
    (hne : b.snapshot? session kind ≠ some s) : s ∈ saved := by
  have hor := h.snapshot_eq.symm.trans hs
  cases saved with
  | none => exact absurd hor hne
  | some s' => exact hor

/-- Where nothing is stored it does not matter for whom. -/
theorem Stores.none {session kind : Text} (h : b.Stores b' session kind .none)
    (session' kind' : Text) : b.Stores b' session' kind' .none := by
  have hsame (session' kind' : Text) :
      b'.snapshot? session' kind' = b.snapshot? session' kind' := by
    by_cases heq : (session', kind') = (session, kind)
    · obtain ⟨rfl, rfl⟩ := Prod.mk.inj heq
      exact h.snapshot_eq
    · exact h.others session' kind' heq
  exact ⟨hsame session' kind', fun session'' kind'' _ => hsame session'' kind''⟩

theorem exists_stores_saveSnapshot (b : Backend) (session kind : Text) (s : Thunk Snapshot) :
    ∃ saved, b.Stores (b.saveSnapshot session kind s).2 session kind saved ∧
      ∀ t ∈ saved, t = s.get := by
  unfold saveSnapshot
  dsimp only
  split
  · exact ⟨none, stores_none (b := b) (by rfl) session kind, by simp⟩
  · refine ⟨some s.get, ⟨?_, fun session' kind' hne => ?_⟩, by simp⟩
    · rw [snapshot?_storeSnapshot, if_pos rfl]
      rfl
    · rw [snapshot?_storeSnapshot, if_neg (Ne.symm hne)]
      rfl

theorem snapshots_undergo (h : b'.snapshots = b.snapshots) (change : BackendChange) :
    (b'.undergo change).snapshots = (b.undergo change).snapshots := by
  cases change <;>
    simp [undergo, append, truncate, broadcast, appendSilently, storeSnapshot, registerId, fail,
      recover, h]

theorem snapshots_undergoAll (h : b'.snapshots = b.snapshots) (changes : List BackendChange) :
    (b'.undergoAll changes).snapshots = (b.undergoAll changes).snapshots := by
  induction changes generalizing b b' with
  | nil => exact h
  | cons change changes ih => exact ih (snapshots_undergo h change)

end Backend

section Stores

variable {σ : Type} [Display σ]

/-- What saving stores is a snapshot of what is rendered. -/
theorem SnapshotTimer.exists_stores_flush (t : SnapshotTimer) (r : Rendering σ) (b : Backend)
    (session : Text) (force : Bool) :
    ∃ saved, b.Stores (t.flush r b session force).2.2 session t.settings.kind saved ∧
      ∀ s ∈ saved, r.output.loaded = true ∧ s = snapshotOf (t.flush r b session force).2.1 := by
  unfold flush
  split
  · rename_i hwants
    obtain ⟨saved, hstores, hsaved⟩ :=
      b.exists_stores_saveSnapshot session t.settings.kind (snapshotOf r)
    refine ⟨saved, hstores, fun s hs => ⟨?_, hsaved s hs⟩⟩
    simp only [wants, Bool.and_eq_true] at hwants
    exact hwants.1
  · exact ⟨none, Backend.stores_none rfl _ _, by simp⟩

namespace Session

theorem exists_stores_pollSnapshots (s : Session σ) (b : Backend) (now : Nat) :
    ∃ saved, b.Stores (s.pollSnapshots b now).2 s.id s.timer.settings.kind saved ∧
      ∀ t ∈ saved, s.isLoaded = true ∧ ∃ surface, (s.pollSnapshots b now).1.surface = some surface ∧
        t = SnapshotTimer.snapshotOf ⟨(s.pollSnapshots b now).1.output, surface⟩ := by
  unfold pollSnapshots
  split
  · rename_i surface _
    unfold SnapshotTimer.poll
    by_cases hdue : s.timer.isDue now
    · obtain ⟨saved, hstores, hsaved⟩ :=
        s.timer.exists_stores_flush ⟨s.output, surface⟩ b s.id false
      rw [if_pos hdue]
      exact ⟨saved, hstores, fun t ht => ⟨(hsaved t ht).1, _, rfl, (hsaved t ht).2⟩⟩
    · rw [if_neg hdue]
      exact ⟨none, Backend.stores_none rfl _ _, by simp⟩
  · exact ⟨none, Backend.stores_none rfl _ _, by simp⟩

theorem pollResizing_rest (s : Session σ) (b : Backend) (now : Nat) :
    (s.pollResizing b now).1.id = s.id ∧ (s.pollResizing b now).1.timer = s.timer ∧
      (s.pollResizing b now).1.output = s.output ∧
      (s.pollResizing b now).2.snapshots = b.snapshots := by
  unfold pollResizing
  split
  · rename_i surface _
    refine ⟨rfl, rfl, rfl, ?_⟩
    unfold Resizing.poll
    dsimp only
    split
    · rename_i size debouncer _
      obtain ⟨-, -, -, -, hkeeps, -⟩ :=
        Host.exists_calls_apply { s.resizing with debouncer } size surface b s.id
      exact hkeeps.snapshots
    · rfl
  · exact ⟨rfl, rfl, rfl, rfl⟩

/-- The timers store at most what the idle tick does. -/
theorem exists_stores_pollTimers (s : Session σ) (b : Backend) (now : Nat) :
    ∃ saved, b.Stores (s.pollTimers b now).2 s.id s.timer.settings.kind saved ∧
      ∀ t ∈ saved, s.isLoaded = true ∧ ∃ surface, (s.pollTimers b now).1.surface = some surface ∧
        t = SnapshotTimer.snapshotOf ⟨(s.pollTimers b now).1.output, surface⟩ := by
  have hexpire : (s.expirePaste now).id = s.id ∧ (s.expirePaste now).timer = s.timer ∧
      (s.expirePaste now).output = s.output := by
    unfold expirePaste
    split <;> exact ⟨rfl, rfl, rfl⟩
  obtain ⟨hid, htimer, houtput, hsnapshots⟩ := (s.expirePaste now).pollResizing_rest b now
  obtain ⟨saved, hstores, hsaved⟩ := exists_stores_pollSnapshots
    ((s.expirePaste now).pollResizing b now).1 ((s.expirePaste now).pollResizing b now).2 now
  rw [hid, htimer, hexpire.1, hexpire.2.1] at hstores
  refine ⟨saved, hstores.of_snapshots_eq hsnapshots, fun t ht => ?_⟩
  obtain ⟨hloaded, hshown⟩ := hsaved t ht
  rw [isLoaded, houtput, hexpire.2.2] at hloaded
  exact ⟨hloaded, hshown⟩

theorem processEvents_snapshots (s : Session σ) (b : Backend) :
    (s.processEvents b).2.2.snapshots = b.snapshots := by
  unfold processEvents
  split
  · rename_i surface receiver _ _
    obtain ⟨-, hkeeps⟩ := foldl_handleEvent s.id (b.receiveAll receiver).1 ⟨s.output, surface⟩
      (b.receiveAll receiver).2
    exact hkeeps.snapshots
  · rfl

theorem loadHistory_snapshots (s : Session σ) (b : Backend) (now : Nat) :
    (s.loadHistory b now).2.snapshots = b.snapshots := by
  unfold loadHistory
  split
  · rfl
  · split
    · exact ((Rendering.keeps_load _ _ _ _).trans (Backend.keeps_dispatch _ _ _ _)).snapshots
    · rfl

/-- Only saving and the timers store snapshots. -/
theorem perform_snapshots (s : Session σ) (b : Backend) {c : SessionCall} (hflush : c ≠ .flush)
    (hpoll : ∀ now, c ≠ .pollTimers now) :
    (s.perform b c).2.snapshots = (b.undergoAll c.changes).snapshots := by
  cases hc : c.isInput with
  | true =>
    have hchanges : c.changes = [] := by cases c <;> first | rfl | cases hc
    rw [hchanges]
    refine perform_sends (P := fun b' => b'.snapshots = b.snapshots) ?_ s hc rfl
    intro b' session data h
    unfold Backend.sendInput
    dsimp only
    split <;> exact h
  | false =>
    cases c with
    | load now meanwhile =>
      simp only [perform, load]
      split
      · rfl
      · rw [loadHistory_snapshots]
        exact Backend.snapshots_undergoAll (processEvents_snapshots s b) meanwhile
    | processEvents => exact processEvents_snapshots s b
    | fit size =>
      simp only [perform, fit]
      split
      · rename_i surface _
        obtain ⟨-, -, -, -, hkeeps, -⟩ := Host.exists_calls_apply s.resizing size surface b s.id
        exact hkeeps.snapshots
      · rfl
    | dispose =>
      simp only [perform, dispose]
      split
      · rfl
      · dsimp only
        split <;> rfl
    | flush => exact absurd rfl hflush
    | pollTimers now => exact absurd rfl (hpoll now)
    | write | key | data | paste | compositionEnd => cases hc
    | _ => rfl

/-- A call stores at most one snapshot, of what its session renders, and only when it is loaded. -/
theorem exists_stores_perform (s : Session σ) (b : Backend) (c : SessionCall) :
    ∃ saved, (b.undergoAll c.changes).Stores (s.perform b c).2 s.id s.timer.settings.kind saved ∧
      ∀ t ∈ saved, c.isAside = true ∧ s.isLoaded = true ∧
        ∃ surface, (s.perform b c).1.surface = some surface ∧
          t = SnapshotTimer.snapshotOf ⟨(s.perform b c).1.output, surface⟩ := by
  by_cases hflush : c = .flush
  · subst hflush
    simp only [perform, flush]
    split
    · rename_i surface _
      obtain ⟨saved, hstores, hsaved⟩ :=
        s.timer.exists_stores_flush ⟨s.output, surface⟩ b s.id true
      exact ⟨saved, hstores, fun t ht => ⟨rfl, (hsaved t ht).1, _, rfl, (hsaved t ht).2⟩⟩
    · exact ⟨none, Backend.stores_none rfl _ _, by simp⟩
  · by_cases hpoll : ∀ now, c ≠ .pollTimers now
    · exact ⟨none, Backend.stores_none (perform_snapshots s b hflush hpoll) _ _, by simp⟩
    · simp only [ne_eq, not_forall, not_not] at hpoll
      obtain ⟨now, rfl⟩ := hpoll
      obtain ⟨saved, hstores, hsaved⟩ := s.exists_stores_pollTimers b now
      exact ⟨saved, hstores, fun t ht => ⟨rfl, hsaved t ht⟩⟩

end Session

end Stores

/-! ### Sessions before and after loading -/

namespace Rendering

variable {σ : Type} [Display σ]

theorem handleAll_unloaded {r : Rendering σ} (hl : r.output.loaded = false) (chunks : List Chunk) :
    r.handleAll (chunks.map Chunk.event) = { r with output.held := r.output.held ++ chunks } := by
  rw [← (Session.foldl_handleEvent [] _ r {}).1, foldl_handleEvent_unloaded [] {} chunks hl]

theorem handleAll_loaded {r : Rendering σ} (hl : r.output.loaded = true) (chunks : List Chunk) :
    r.handleAll (chunks.map Chunk.event) = (r.appendAll chunks).1 := by
  rw [← (Session.foldl_handleEvent [] _ r {}).1, foldl_handleEvent_loaded [] {} chunks hl]

end Rendering

namespace Host

variable {σ : Type} [Display σ]

/-- What a session that loads finds: it has taken the notifications, and the backend has changed. -/
def found (h : Host σ) (meanwhile : List BackendChange) : Host σ :=
  { session := (h.perform .processEvents).session
    backend := (h.perform .processEvents).backend.undergoAll meanwhile }

/-- The snapshot that a session would start from. -/
def source? (h : Host σ) : Option Snapshot :=
  h.session.surface.bind fun display =>
    Rendering.startingSnapshot? ⟨h.session.output, display⟩ h.backend h.session.id
      h.session.timer.settings.kind

/-- In a run the session loads, and `t` is the snapshot that it starts from, if there is one. -/
def LoadsFrom (h : Host σ) (events : List HostEvent) (t : Option Snapshot) : Prop :=
  ∃ before now meanwhile after, events = before ++ .call (.load now meanwhile) :: after ∧
    (h.advanceAll before).session.disposed = false ∧
    (h.advanceAll before).session.isLoaded = false ∧
    ((h.advanceAll before).found meanwhile).source? = t

theorem LoadsFrom.cons {h : Host σ} {e : HostEvent} {events : List HostEvent} {t : Option Snapshot}
    (l : (h.advance e).LoadsFrom events t) : h.LoadsFrom (e :: events) t := by
  obtain ⟨before, now, meanwhile, after, rfl, hload⟩ := l
  exact ⟨e :: before, now, meanwhile, after, rfl, hload⟩

/-- In the event the session loads although the log cannot be read, and starts from less than
`base`, the length of the log when it began to listen.  What the log has in between it never
renders. -/
def Misleads (base : Nat) (h : Host σ) : HostEvent → Prop
  | .call (.load _ meanwhile) =>
    h.session.disposed = false ∧ h.session.isLoaded = false ∧
      (h.found meanwhile).backend.fails .fetchFile = true ∧
      (h.found meanwhile).source?.elim 0 Snapshot.offset < base
  | _ => False

/-- No event of a run misleads the session. -/
def Sound (base : Nat) (h : Host σ) : List HostEvent → Prop
  | [] => True
  | e :: events => ¬ h.Misleads base e ∧ (h.advance e).Sound base events

instance (base : Nat) (h : Host σ) : (e : HostEvent) → Decidable (h.Misleads base e)
  | .call (.load _ meanwhile) =>
    inferInstanceAs (Decidable (_ ∧ _ ∧ (h.found meanwhile).backend.fails .fetchFile = true ∧
      (h.found meanwhile).source?.elim 0 Snapshot.offset < base))
  | .call .processEvents | .call .flush | .call (.pollTimers _) | .call (.requestSize _ _)
  | .call (.fit _) | .call (.write _) | .call (.key _ _) | .call (.data _ _) | .call (.paste _ _)
  | .call .compositionStart | .call (.compositionUpdate _) | .call (.compositionEnd _ _)
  | .call .focusLost | .call (.setFilterEnabled _) | .call (.setMirroring _) | .call .dispose
  | .backend _ => isFalse fun h => h

instance decidableSound (base : Nat) (h : Host σ) :
    (events : List HostEvent) → Decidable (h.Sound base events)
  | [] => isTrue trivial
  | e :: events => @instDecidableAnd _ _ _ (decidableSound base (h.advance e) events)

/-- Before loading: nothing is written, and what is held back or waits bridges the log from `base`
on. -/
structure Expects (id kind : Text) (base : Nat) (receiver : Receiver) (h : Host (Recorder σ))
    (waiting : List Chunk) : Prop extends Hears id receiver h (waiting.map Chunk.event) where
  kind_eq : h.session.timer.settings.kind = kind
  unloaded : h.session.output.loaded = false
  position_eq : h.session.output.position = 0
  unwritten : ∀ r ∈ h.session.surface, r.written = []
  base_le : base ≤ (h.backend.log id).toList.length
  bridges : Bridges base (h.session.output.held ++ waiting) (h.backend.log id).toList

/-- After loading: what the display was written covers the log up to the position, and what waits
bridges the log from there on. -/
structure Renders (id kind : Text) (t : Option Snapshot) (receiver : Receiver)
    (h : Host (Recorder σ)) (waiting : List Chunk) : Prop
    extends Hears id receiver h (waiting.map Chunk.event) where
  kind_eq : h.session.timer.settings.kind = kind
  loaded : h.session.output.loaded = true
  covers : ∀ r ∈ h.session.surface,
    Covers t (h.backend.log id).toList r.written h.session.output.position
  bridges : Bridges h.session.output.position waiting (h.backend.log id).toList

variable {id kind : Text} {base : Nat} {t : Option Snapshot} {receiver : Receiver}
  {h : Host (Recorder σ)} {waiting : List Chunk}

theorem expects_start (id : Text) (display : σ) (config : Config) (b : Backend) :
    (start id ({ display } : Recorder σ) config b).Expects id config.snapshots.kind
      (b.log id).toList.length (b.subscribe id).1 [] where
  toHears := hears_start id _ config b
  kind_eq := rfl
  unloaded := rfl
  position_eq := rfl
  unwritten := by
    rintro r hr
    cases hr
    rfl
  base_le := Nat.le_refl _
  bridges := .nil (Nat.le_refl _)

omit [Display σ] in
/-- A change of which the session is told. -/
theorem Hears.exists_undergo (l : h.Hears id receiver (waiting.map Chunk.event))
    {change : BackendChange} (hc : change.IsNotified id) :
    ∃ new data, Hears id receiver { h with backend := h.backend.undergo change }
        ((waiting ++ new).map Chunk.event) ∧
      ((h.backend.undergo change).log id).toList = (h.backend.log id).toList ++ data ∧
      ∀ p held, Bridges p (held ++ waiting) (h.backend.log id).toList →
        Bridges p (held ++ (waiting ++ new)) ((h.backend.log id).toList ++ data) := by
  have l' := l.undergo change
  rcases hc.cases h.backend with ⟨data, hlog, hevent⟩ | ⟨hlog, hevent⟩
  · rw [hevent] at l'
    refine ⟨[⟨(h.backend.log id).toList.length, data⟩], data, ?_, hlog, ?_⟩
    · rw [List.map_append]
      exact l'
    · intro p held hb
      rw [← List.append_assoc]
      exact hb.append_last data
  · rw [hevent, Option.toList_none, List.append_nil] at l'
    refine ⟨[], [], ?_, ?_, ?_⟩
    · rwa [List.append_nil]
    · rw [hlog, List.append_nil]
    · intro p held hb
      rwa [List.append_nil, List.append_nil]

omit [Display σ] in
theorem Expects.undergo (x : Expects id kind base receiver h waiting) {change : BackendChange}
    (hc : change.IsNotified id) :
    ∃ waiting', Expects id kind base receiver { h with backend := h.backend.undergo change }
      waiting' := by
  obtain ⟨new, data, hears, hlog, hbridges⟩ := x.toHears.exists_undergo hc
  refine ⟨waiting ++ new, ⟨hears, x.kind_eq, x.unloaded, x.position_eq, x.unwritten, ?_, ?_⟩⟩
  · simp only [hlog, List.length_append]
    exact Nat.le_add_right_of_le x.base_le
  · simp only [hlog]
    exact hbridges _ _ x.bridges

omit [Display σ] in
theorem Renders.undergo (d : Renders id kind t receiver h waiting) {change : BackendChange}
    (hc : change.IsNotified id) :
    ∃ waiting', Renders id kind t receiver { h with backend := h.backend.undergo change }
      waiting' := by
  obtain ⟨new, data, hears, hlog, hbridges⟩ := d.toHears.exists_undergo hc
  refine ⟨waiting ++ new, ⟨hears, d.kind_eq, d.loaded, ?_, ?_⟩⟩
  · intro r hr
    rw [hlog]
    exact (d.covers r hr).grow data
  · simp only [hlog]
    exact hbridges _ [] d.bridges

omit [Display σ] in
theorem Expects.undergoAll (x : Expects id kind base receiver h waiting)
    {changes : List BackendChange} (hc : ∀ change ∈ changes, change.IsNotified id) :
    ∃ waiting', Expects id kind base receiver { h with backend := h.backend.undergoAll changes }
      waiting' :=
  Backend.undergoAll_induction
    (P := fun b => ∃ waiting', Expects id kind base receiver { h with backend := b } waiting')
    (fun change hchange _ ⟨_, x'⟩ => x'.undergo (hc change hchange)) ⟨waiting, x⟩

/-! ### Calls -/

/-- Resizing does nothing to what was written. -/
theorem written_foldl_resize (r : Recorder σ) (sizes : List Size) :
    (sizes.foldl resize r).written = r.written := by
  induction sizes generalizing r with
  | nil => rfl
  | cons size sizes ih => exact ih (resize r size)

theorem written_aside (h : Host (Recorder σ)) {c : SessionCall} (hc : c.isAside = true)
    {r : Recorder σ} (hr : r ∈ (h.perform c).session.surface) :
    ∃ r' ∈ h.session.surface, r.written = r'.written := by
  obtain ⟨sizes, hsizes⟩ := (h.session.resized_perform h.backend hc).surface_eq
  obtain ⟨r', hr', rfl⟩ := Option.map_eq_some_iff.1 (hsizes.symm.trans hr)
  exact ⟨r', hr', written_foldl_resize r' sizes⟩

theorem Expects.aside (x : Expects id kind base receiver h waiting) {c : SessionCall}
    (hc : c.isAside = true) : Expects id kind base receiver (h.perform c) waiting := by
  have hsession := h.session.resized_perform h.backend hc
  have hheld : (h.perform c).session.output.held = h.session.output.held := hsession.held_eq
  exact
    { x.toHears.aside hc with
      kind_eq := (congrArg SnapshotSettings.kind hsession.settings_eq).trans x.kind_eq
      unloaded := hsession.loaded_eq.trans x.unloaded
      position_eq := hsession.position_eq.trans x.position_eq
      unwritten := by
        intro r hr
        obtain ⟨r', hr', hwritten⟩ := h.written_aside hc hr
        rw [hwritten, x.unwritten r' hr']
      base_le := by
        rw [h.log_aside hc]
        exact x.base_le
      bridges := by
        rw [h.log_aside hc, hheld]
        exact x.bridges }

theorem Renders.aside (d : Renders id kind t receiver h waiting) {c : SessionCall}
    (hc : c.isAside = true) : Renders id kind t receiver (h.perform c) waiting := by
  have hsession := h.session.resized_perform h.backend hc
  have hposition : (h.perform c).session.output.position = h.session.output.position :=
    hsession.position_eq
  exact
    { d.toHears.aside hc with
      kind_eq := (congrArg SnapshotSettings.kind hsession.settings_eq).trans d.kind_eq
      loaded := hsession.loaded_eq.trans d.loaded
      covers := by
        intro r hr
        obtain ⟨r', hr', hwritten⟩ := h.written_aside hc hr
        rw [h.log_aside hc, hposition, hwritten]
        exact d.covers r' hr'
      bridges := by
        rw [h.log_aside hc, hposition]
        exact d.bridges }

/-- Before loading the session holds back what it takes. -/
theorem Expects.processEvents (x : Expects id kind base receiver h waiting) :
    Expects id kind base receiver (h.perform .processEvents) [] := by
  obtain ⟨r, hr⟩ := Option.isSome_iff_exists.1 x.shown
  obtain ⟨hsession, hears⟩ := x.toHears.processEvents hr
  rw [Rendering.handleAll_unloaded (r := ⟨h.session.output, r⟩) x.unloaded] at hsession
  exact
    { hears with
      kind_eq := by rw [hsession]; exact x.kind_eq
      unloaded := by rw [hsession]; exact x.unloaded
      position_eq := by rw [hsession]; exact x.position_eq
      unwritten := by
        rw [hsession]
        exact fun r' hr' => x.unwritten r' (hr.trans hr')
      base_le := by
        rw [h.log_processEvents]
        exact x.base_le
      bridges := by
        rw [h.log_processEvents, hsession, List.append_nil]
        exact x.bridges }

/-- After loading it renders it. -/
theorem Renders.processEvents (d : Renders id kind t receiver h waiting) :
    Renders id kind t receiver (h.perform .processEvents) [] := by
  obtain ⟨r, hr⟩ := Option.isSome_iff_exists.1 d.shown
  obtain ⟨hsession, hears⟩ := d.toHears.processEvents hr
  rw [Rendering.handleAll_loaded (r := ⟨h.session.output, r⟩) d.loaded] at hsession
  obtain ⟨hcovers, hposition⟩ := Rendering.covers_appendAll (r := ⟨h.session.output, r⟩)
    (d.covers r hr) d.bridges.pieces d.bridges.gapless
  obtain ⟨-, -, -, hloaded, -⟩ :=
    Rendering.exists_calls_appendAll (⟨h.session.output, r⟩ : Rendering (Recorder σ)) waiting
  exact
    { hears with
      kind_eq := by rw [hsession]; exact d.kind_eq
      loaded := by rw [hsession]; exact hloaded.trans d.loaded
      covers := by
        rw [h.log_processEvents, hsession]
        rintro r' hr'
        obtain rfl := Option.some.inj hr'
        exact hcovers
      bridges := by
        rw [h.log_processEvents, hsession]
        refine .nil ?_
        refine Nat.le_trans d.bridges.length_le (Nat.le_of_eq ?_)
        exact hposition.symm }

/-- Loading, unless it is misled, renders what there is of the log. -/
theorem Expects.loadHistory (x : Expects id kind base receiver h waiting)
    (hread : h.backend.fails .fetchFile = true → base ≤ h.source?.elim 0 Snapshot.offset)
    (now : Nat) :
    Renders id kind h.source? receiver (h.loadHistory now) waiting := by
  obtain ⟨r, hr⟩ := Option.isSome_iff_exists.1 x.shown
  have hsource : h.source? =
      Rendering.startingSnapshot? ⟨h.session.output, r⟩ h.backend id kind := by
    rw [source?, hr, x.id_eq, x.kind_eq]
    rfl
  have hload : (h.loadHistory now).session =
      { h.session.withRendering (Rendering.load ⟨h.session.output, r⟩ h.backend id kind).1 with
        timer := h.session.timer.start now } := by
    simp [Host.loadHistory, Session.loadHistory, Session.isLoaded, x.unloaded, hr, x.id_eq,
      x.kind_eq]
  have hlog : (h.loadHistory now).backend.log id = h.backend.log id := by
    have hlogs : (h.loadHistory now).backend.logs = h.backend.logs :=
      h.session.loadHistory_stable (Backend.stable_logs (· = h.backend.logs)) now rfl
    simp [Backend.log, hlogs]
  rw [hsource] at hread ⊢
  obtain ⟨hcovers, hreach, hloaded⟩ := Rendering.covers_load (r := ⟨h.session.output, r⟩) x.unloaded
    (x.unwritten r hr) x.position_eq rfl x.base_le hread
    (fun c hc => x.bridges.pieces c (List.mem_append_left _ hc))
    (gapless_append.1 x.bridges.gapless).1
  exact
    { x.toHears.loadHistory now with
      kind_eq := by
        simp only [hload]
        exact x.kind_eq
      loaded := by
        simp only [hload]
        exact hloaded
      covers := by
        simp only [hload, hlog]
        rintro r' hr'
        obtain rfl := Option.some.inj hr'
        exact hcovers
      bridges := by
        simp only [hload, hlog]
        exact x.bridges.of_append.mono hreach }

/-! ### Runs -/

/-- Once loaded a session goes on rendering until it is disposed of. -/
theorem lasting_renders (id kind : Text) (t : Option Snapshot) (receiver : Receiver) :
    Lasting (·.IsNotified id) (fun _ => True)
      (fun h : Host (Recorder σ) => ∃ waiting, Renders id kind t receiver h waiting) where
  live _ := fun ⟨_, d⟩ => d.live
  undergo _ _ hc := fun ⟨_, d⟩ => d.undergo hc
  aside _ _ _ hc := fun ⟨waiting, d⟩ => ⟨waiting, d.aside hc⟩
  processEvents _ := fun ⟨_, d⟩ => ⟨[], d.processEvents⟩
  loadHistory h now := by
    rintro ⟨waiting, d⟩
    have hloaded : h.session.isLoaded = true := d.loaded
    rw [loadHistory_loaded hloaded]
    exact ⟨waiting, d⟩

/-- Before loading, an event leaves the session there, ends it, or is what loads it. -/
theorem Expects.advance (x : Expects id kind base receiver h waiting) {e : HostEvent}
    (he : ∀ change ∈ e.changes, change.IsNotified id) (hsound : ¬ h.Misleads base e) :
    (h.advance e).IsOver ∨ (∃ waiting', Expects id kind base receiver (h.advance e) waiting') ∨
      ∃ now meanwhile waiting', e = .call (.load now meanwhile) ∧
        Renders id kind (h.found meanwhile).source? receiver (h.advance e) waiting' := by
  cases e with
  | backend change => exact .inr (.inl (x.undergo (he change (List.mem_singleton.2 rfl))))
  | call c =>
    cases hc : c.isAside with
    | true => exact .inr (.inl ⟨waiting, x.aside hc⟩)
    | false =>
      cases c with
      | processEvents => exact .inr (.inl ⟨[], x.processEvents⟩)
      | load now meanwhile =>
        obtain ⟨waiting', x'⟩ := x.processEvents.undergoAll he
        have hread : (h.found meanwhile).backend.fails .fetchFile = true →
            base ≤ (h.found meanwhile).source?.elim 0 Snapshot.offset := by
          intro hfails
          exact Nat.not_lt.1 fun hlt => hsound ⟨x.live, x.unloaded, hfails, hlt⟩
        refine .inr (.inr ⟨now, meanwhile, waiting', rfl, ?_⟩)
        change Renders _ _ _ _ (h.perform (.load now meanwhile)) _
        rw [perform_load x.live]
        exact x'.loadHistory hread now
      | dispose => exact .inl (isOver_dispose x.live)
      | _ => cases hc

/-- After a sound run the session is over, or has not loaded, or renders from what it loaded. -/
theorem Expects.advanceAll (x : Expects id kind base receiver h waiting) {events : List HostEvent}
    (he : ∀ e ∈ events, ∀ change ∈ e.changes, change.IsNotified id)
    (hsound : h.Sound base events) :
    (h.advanceAll events).IsOver ∨
      (∃ waiting', Expects id kind base receiver (h.advanceAll events) waiting') ∨
      ∃ t waiting', h.LoadsFrom events t ∧
        Renders id kind t receiver (h.advanceAll events) waiting' := by
  induction events generalizing h waiting with
  | nil => exact .inr (.inl ⟨waiting, x⟩)
  | cons e events ih =>
    have hrest := fun e h => he e (List.mem_cons_of_mem _ h)
    rcases x.advance (he e List.mem_cons_self) hsound.1 with
      o | ⟨waiting', x'⟩ | ⟨now, meanwhile, waiting', rfl, d⟩
    · exact .inl (o.advanceAll events)
    · rcases ih x' hrest hsound.2 with o | x'' | ⟨t, waiting'', hloads, d⟩
      · exact .inl o
      · exact .inr (.inl x'')
      · exact .inr (.inr ⟨t, waiting'', hloads.cons, d⟩)
    · rcases (lasting_renders id kind _ receiver).advanceAll hrest (fun _ _ _ _ => trivial) ⟨_, d⟩
        with o | ⟨waiting'', d'⟩
      · exact .inl o
      · exact .inr (.inr ⟨_, waiting'',
          ⟨[], now, meanwhile, events, rfl, x.live, x.unloaded, rfl⟩, d'⟩)

/-- In a run in which the session is told of all output, whatever fails and whenever: each snapshot
that a call stores is what the display shows, and the display was written the snapshot that the
session was loaded from, and then without a gap what the log has up to the position that the new
snapshot says it covers.  The session must not have been misled when it was loaded. -/
theorem saved_covers (id : Text) (display : σ) (config : Config) (b : Backend)
    {events : List HostEvent} (he : ∀ e ∈ events, ∀ change ∈ e.changes, change.IsNotified id)
    (hsound : (start id ({ display } : Recorder σ) config b).Sound (b.log id).toList.length events)
    (c : SessionCall) :
    let h₀ := start id ({ display } : Recorder σ) config b
    let h := h₀.advanceAll events
    ∃ saved, (h.backend.undergoAll c.changes).Stores (h.perform c).backend id config.snapshots.kind
        saved ∧
      ∀ s ∈ saved, ∃ t r, h₀.LoadsFrom events t ∧ (h.perform c).session.surface = some r ∧
        s = SnapshotTimer.snapshotOf ⟨(h.perform c).session.output, r⟩ ∧
        Covers t (h.backend.log id).toList r.written s.offset := by
  intro h₀ h
  obtain ⟨saved, hstores, hsaved⟩ := h.session.exists_stores_perform h.backend c
  have hnothing (hnone : ∀ s, s ∉ saved) : ∃ saved, (h.backend.undergoAll c.changes).Stores
        (h.perform c).backend id config.snapshots.kind saved ∧
      ∀ s ∈ saved, ∃ t r, h₀.LoadsFrom events t ∧ (h.perform c).session.surface = some r ∧
        s = SnapshotTimer.snapshotOf ⟨(h.perform c).session.output, r⟩ ∧
        Covers t (h.backend.log id).toList r.written s.offset := by
    obtain rfl := Option.eq_none_iff_forall_not_mem.2 hnone
    exact ⟨none, hstores.none _ _, by simp⟩
  rcases (expects_start id display config b).advanceAll he hsound with
    o | ⟨waiting, x⟩ | ⟨t, waiting, hloads, d⟩
  · refine hnothing fun s hs => ?_
    obtain ⟨-, -, r, hr, -⟩ := hsaved s hs
    exact Option.some_ne_none r (hr.symm.trans (o.advance (.call c)).released)
  · refine hnothing fun s hs => ?_
    obtain ⟨-, hloaded, -⟩ := hsaved s hs
    exact Bool.false_ne_true (x.unloaded.symm.trans hloaded)
  · refine ⟨saved, ?_, ?_⟩
    · rw [d.id_eq, d.kind_eq] at hstores
      exact hstores
    · intro s hs
      obtain ⟨haside, -, r, hr, rfl⟩ := hsaved s hs
      refine ⟨t, r, hloads, hr, rfl, ?_⟩
      have hcovers := (d.aside haside).covers r hr
      rw [log_aside _ haside] at hcovers
      exact hcovers

/-- The log cannot be read when the session loads, but a snapshot reaches as far as it has to; later
the store fails for a while. -/
theorem saved_covers_abcd :
    let b := (({} : Backend).append [] [0x61, 0x62]).storeSnapshot [] "full".toList
      (Thunk.pure ⟨"ab".toList, 2, none⟩)
    let events : List HostEvent :=
      [.backend (.fail .fetchFile), .call (.load 0 []), .backend (.append [] [0x63]),
        .call .processEvents, .backend (.fail .saveCache), .call .flush,
        .backend (.recover .saveCache), .backend (.append [] [0x64]), .call .processEvents]
    let h₀ := start [] ({ display := Surface.new ⟨1, 8⟩ } : Recorder Surface) {} b
    let h := h₀.advanceAll events
    ∃ s t r, (h.perform .flush).backend.snapshot? [] "full".toList = some s ∧ s.offset = 4 ∧
      h₀.LoadsFrom events t ∧ (h.perform .flush).session.surface = some r ∧
      Covers t (Utf8.encode "abcd".toList) r.written s.offset := by
  intro b events h₀ h
  have he : ∀ e ∈ events, ∀ change ∈ e.changes, change.IsNotified [] := by decide
  have hsound : h₀.Sound (b.log []).toList.length events := by decide
  obtain ⟨saved, hstores, hsaved⟩ :=
    saved_covers [] (Surface.new ⟨1, 8⟩) {} b he hsound .flush
  have hbefore : ((h.backend.undergoAll (SessionCall.changes .flush)).snapshot? []
      ({} : Config).snapshots.kind).map Snapshot.offset = some 2 := by decide
  have hafter : ((h.perform .flush).backend.snapshot? [] "full".toList).map Snapshot.offset =
      some 4 := by decide
  have hlog : (h.backend.log []).toList = Utf8.encode "abcd".toList := by decide
  obtain ⟨s, hs, hoffset⟩ := Option.map_eq_some_iff.1 hafter
  have hnew : (h.backend.undergoAll (SessionCall.changes .flush)).snapshot? []
      ({} : Config).snapshots.kind ≠ some s := by
    intro hold
    rw [hold, Option.map_some, hoffset] at hbefore
    exact absurd hbefore (by decide)
  obtain ⟨t, r, hloads, hr, -, hcovers⟩ := hsaved s (hstores.mem_of_ne hs hnew)
  rw [hlog] at hcovers
  have hsurface : (h.perform .flush).session.surface = some r := by
    simp only [h, h₀]
    exact hr
  exact ⟨s, t, r, hs, hoffset, hloads, hsurface, hcovers⟩

/-- A session that is misled.  The log cannot be read for the moment when it loads, and it renders
only what comes later; the snapshot that it saves says that it covers all of the log. -/
theorem stored_with_gap :
    let b := ({} : Backend).append [] (Utf8.encode "ab".toList)
    let events : List HostEvent :=
      [.backend (.fail .fetchFile), .call (.load 0 []), .backend (.recover .fetchFile),
        .backend (.append [] (Utf8.encode "cd".toList)), .call .processEvents]
    let h₀ := start [] ({ display := Surface.new ⟨1, 8⟩ } : Recorder Surface) {} b
    let h := (h₀.advanceAll events).perform .flush
    ¬ h₀.Sound (b.log []).toList.length events ∧
      (h.backend.log []).toList = Utf8.encode "abcd".toList ∧
      h.backend.snapshot? [] "full".toList = some ⟨"cd\x1b[1;3H".toList, 4, some ⟨1, 8⟩⟩ ∧
      ∃ r ∈ h.session.surface, r.written = Utf8.encode "cd".toList := by
  decide +kernel

end Host

end TermSession
