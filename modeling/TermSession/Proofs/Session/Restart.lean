import TermSession.Proofs.Session.Reload
import TermSession.Proofs.Session.Shown

/-!
# Restarts of a log

Sessions of one log come and go, save snapshots and load from them, while output is added to the log
and the log is restarted, whether or not a session listens.  A session that was told of a restart
before it loads does not use the stored snapshot; one that subscribed after the restart was not
told.

* `Hub`, `HubStep`, `Hub.step`, `Hub.run`: sessions with the log and the backend they share;
* `Hub.outdated`: the stored snapshot may be older than the log.  This is an observation; no session
  knows of it;
* `Hub.IsMisled`, `Hub.Sound`: the runs in which no session starts from such a snapshot unawares;
* `Hub.Tracks`: what is true of every state of a sound run;
* `Hub.call`, `Tracks.call`: one session is called, and the others go on as before;
* `Hub.shown_of_sound`: after a sound run every session shows its log;
* `Hub.written_load_new`, `Hub.shown_after_restart`: what a session shows that was told of nothing.
-/

namespace TermSession

open Display

variable {σ : Type}

/-- The sessions of one log, and the backend that they share. -/
structure Hub (σ : Type := Surface) where
  id : Text
  config : Config
  backend : Backend
  sessions : List (Session (Recorder σ)) := []
  /-- The log may have been restarted since the output that the stored snapshot shows. -/
  outdated : Bool := true

/-- One step of a run. -/
inductive HubStep (σ : Type := Surface) where
  /-- The log changes. -/
  | log (change : LogChange)
  /-- A new session subscribes. -/
  | create (display : σ)
  | processEvents (i : Nat)
  /-- A session loads while the log changes. -/
  | load (i now : Nat) (meanwhile : List LogChange)
  | flush (i : Nat)
  | dispose (i : Nat)

namespace Hub

/-- The log as it is. -/
def log (h : Hub σ) : List UInt8 := (h.backend.log h.id).toList

/-- The notifications that a session has not taken yet. -/
def waiting (h : Hub σ) (s : Session (Recorder σ)) : List LogEvent :=
  Host.waiting { session := s, backend := h.backend }

/-- The session is loaded and has taken every notification. -/
def CaughtUp (h : Hub σ) (s : Session (Recorder σ)) : Prop :=
  s.isLoaded = true ∧ h.waiting s = []

instance (h : Hub σ) (s : Session (Recorder σ)) : Decidable (h.CaughtUp s) :=
  inferInstanceAs (Decidable (s.isLoaded = true ∧ h.waiting s = []))

/-- The stored snapshot. -/
def stored? (h : Hub σ) : Option Snapshot :=
  h.backend.snapshot? h.id h.config.snapshots.kind

/-- A backend without sessions.  What is stored may be of any age. -/
def start (id : Text) (config : Config) (b : Backend) : Hub σ := { id, config, backend := b }

/-- A session is called, if there is one: it moves on, the backend with it, and the stored snapshot
may be out of date afterwards or not. -/
def call (h : Hub σ) (i : Nat) (f : Session (Recorder σ) → Session (Recorder σ) × Backend × Bool) :
    Hub σ :=
  match h.sessions[i]? with
  | some s =>
    let (s, backend, outdated) := f s
    { h with sessions := h.sessions.set i s, backend, outdated }
  | none => h

/-- The log changes. -/
def change (h : Hub σ) (c : LogChange) : Hub σ :=
  { h with backend := h.backend.change h.id c, outdated := h.outdated || c = .truncate }

/-- The log changes several times. -/
def changeAll (h : Hub σ) (changes : List LogChange) : Hub σ := changes.foldl change h

variable [Display σ]

/-- What a step does. -/
def step (h : Hub σ) : HubStep σ → Hub σ
  | .log c => h.change c
  | .create display =>
    let (s, b) := Session.new h.id { display } h.config h.backend
    { h with sessions := h.sessions ++ [s], backend := b }
  | .processEvents i => h.call i fun s =>
    let (_, s, b) := s.processEvents h.backend
    (s, b, h.outdated)
  | .load i now meanwhile => h.call i fun s =>
    let (s, b) := s.load h.backend now (·.changeAll h.id meanwhile)
    (s, b, h.outdated || meanwhile.contains .truncate)
  | .flush i => h.call i fun s =>
    let (tried, s', b) := s.flush h.backend
    (s', b, if tried then !decide (Unbroken (h.waiting s)) else h.outdated)
  | .dispose i => h.call i fun s =>
    let (s, b) := s.dispose h.backend
    (s, b, h.outdated)

/-- Steps in order. -/
def run (h : Hub σ) (steps : List (HubStep σ)) : Hub σ := steps.foldl step h

/-- A session that has not loaded would start from a stored snapshot that may be out of date, and no
restart of the log waits for it. -/
def IsMisled (h : Hub σ) (i : Nat) : Prop :=
  h.outdated = true ∧ h.stored?.isSome = true ∧
    ∃ s ∈ h.sessions[i]?, s.disposed = false ∧ s.output.loaded = false ∧
      s.output.snapshotStale = false ∧ Unbroken (h.waiting s)

/-- A session is misled as it reads the history. -/
def Misleads (h : Hub σ) : HubStep σ → Prop
  | .load i _ meanwhile => ((h.step (.processEvents i)).changeAll meanwhile).IsMisled i
  | _ => False

/-- No session is misled in a run. -/
def Sound (h : Hub σ) : List (HubStep σ) → Prop
  | [] => True
  | step :: steps => ¬ h.Misleads step ∧ (h.step step).Sound steps

instance (h : Hub σ) (i : Nat) : Decidable (h.IsMisled i) :=
  inferInstanceAs (Decidable (_ ∧ _ ∧ ∃ s ∈ h.sessions[i]?, s.disposed = false ∧
    s.output.loaded = false ∧ s.output.snapshotStale = false ∧ Unbroken (h.waiting s)))

instance (h : Hub σ) : (step : HubStep σ) → Decidable (h.Misleads step)
  | .load i _ meanwhile =>
    inferInstanceAs (Decidable (((h.step (.processEvents i)).changeAll meanwhile).IsMisled i))
  | .log _ | .create _ | .processEvents _ | .flush _ | .dispose _ => isFalse fun h => h

instance decidableSound (h : Hub σ) : (steps : List (HubStep σ)) → Decidable (h.Sound steps)
  | [] => isTrue trivial
  | step :: steps =>
    @instDecidableAnd _ _ _ (decidableSound (h.step step) steps)

end Hub

/-- The session is disposed of, or follows its log. -/
def Session.Participates [Display σ] (made : σ → Prop) (id : Text) (config : Config) (b : Backend)
    (s : Session (Recorder σ)) : Prop :=
  s.disposed = true ∧ s.surface = none ∧ s.receiver = none ∨
    ∃ receiver queue, s.Attends made id config b receiver queue

namespace Hub

variable [Display σ]

/-- The state of a sound run: every session takes part, each with a receiver of its own, and the
stored snapshot shows the log unless it may be out of date. -/
structure Tracks (made : σ → Prop) (h : Hub σ) : Prop where
  healthy : h.backend.failing = []
  participates : ∀ (i : Nat) (s : Session (Recorder σ)), h.sessions[i]? = some s →
    s.Participates made h.id h.config h.backend
  distinct : ∀ (i j : Nat) (s s' : Session (Recorder σ)) (r : Receiver), i ≠ j →
    h.sessions[i]? = some s → h.sessions[j]? = some s' → s.receiver = some r → s'.receiver ≠ some r
  fresh : h.outdated = false → ∀ t ∈ h.stored?, t.Shows made h.log

variable {made : σ → Prop} {h : Hub σ}

/-! ### The log -/

theorem Tracks.change (t : h.Tracks made) (c : LogChange) : (h.change c).Tracks made where
  healthy := by cases c <;> exact t.healthy
  participates i s hs := by
    rcases t.participates i s hs with hdone | ⟨receiver, queue, a⟩
    · exact .inl hdone
    · obtain ⟨queue', a'⟩ := a.change c
      exact .inr ⟨receiver, queue', a'⟩
  distinct := t.distinct
  fresh := by
    intro ho
    cases c with
    | truncate => simp [Hub.change] at ho
    | append data =>
      intro s hs
      have hfresh := t.fresh (by simpa [Hub.change] using ho) s hs
      have hlog : (h.change (.append data)).log = h.log ++ data :=
        Backend.log_append h.backend h.id data
      rw [hlog]
      exact hfresh.grow data

theorem Tracks.changeAll (t : h.Tracks made) (changes : List LogChange) :
    (h.changeAll changes).Tracks made := by
  induction changes generalizing h with
  | nil => exact t
  | cons c changes ih => exact ih (t.change c)

/-! ### One session -/

/-- A session moves on and stays one of the hub, nobody else's notifications are touched, and the
stored snapshot shows the log unless it may be out of date. -/
structure Advances (made : σ → Prop) (h : Hub σ) (s s' : Session (Recorder σ)) (b : Backend)
    (outdated : Bool) : Prop where
  alters : h.backend.AltersOnly s.receiver b
  participates : s'.Participates made h.id h.config b
  receiver : ∀ r, s'.receiver = some r → s.receiver = some r
  fresh : outdated = false →
    ∀ t ∈ b.snapshot? h.id h.config.snapshots.kind, t.Shows made h.log

theorem Tracks.idle (t : h.Tracks made) {i : Nat} {s : Session (Recorder σ)}
    (hs : h.sessions[i]? = some s) : h.Advances made s s h.backend h.outdated :=
  ⟨(Backend.Keeps.refl _).altersOnly _, t.participates i s hs, fun _ hr => hr, t.fresh⟩

theorem Tracks.set (t : h.Tracks made) {i : Nat} {s s' : Session (Recorder σ)} {b : Backend}
    {outdated : Bool} (hs : h.sessions[i]? = some s) (hnext : h.Advances made s s' b outdated) :
    ({ h with sessions := h.sessions.set i s', backend := b, outdated } : Hub σ).Tracks made := by
  obtain ⟨hb, hself, hreceiver, hfresh⟩ := hnext
  have hlog : b.log h.id = h.backend.log h.id := by simp [Backend.log, hb.logs]
  have hset (j : Nat) : (h.sessions.set i s')[j]? = if i = j then some s' else h.sessions[j]? := by
    have hi : i < h.sessions.length := (List.getElem?_eq_some_iff.1 hs).1
    simp [List.getElem?_set, hi]
  refine ⟨hb.failing.trans t.healthy, ?_, ?_, ?_⟩
  · intro j s₂ hj
    rw [hset] at hj
    split at hj
    · exact Option.some.inj hj ▸ hself
    · rename_i hij
      rcases t.participates j s₂ hj with hdone | ⟨receiver, queue, a⟩
      · exact .inl hdone
      · -- The other session listens elsewhere.
        have hother := t.distinct j i s₂ s receiver (Ne.symm hij) hj hs a.receiver_eq
        have hdelivers := hb.delivers receiver queue hother a.delivers
        exact .inr ⟨receiver, queue, a.of_backend hlog hdelivers⟩
  · intro j k s₂ s₃ r hjk hj hk hr
    -- The new state of the session has no receiver that the old one had not.
    rw [hset] at hj hk
    split at hj <;> split at hk
    · omega
    · rename_i hij _
      cases hj
      exact t.distinct i k s s₃ r (hij ▸ hjk) hs hk (hreceiver r hr)
    · rename_i hik
      cases hk
      intro hr'
      exact t.distinct j i s₂ s r (hik ▸ hjk) hj hs hr (hreceiver r hr')
    · exact t.distinct j k s₂ s₃ r hjk hj hk hr
  · intro ho s₂ hs₂
    have hlog' : Hub.log { h with sessions := h.sessions.set i s', backend := b, outdated } =
        h.log := congrArg OutputLog.toList hlog
    rw [hlog']
    exact hfresh ho s₂ hs₂

theorem Tracks.call (t : h.Tracks made) {i : Nat}
    {f : Session (Recorder σ) → Session (Recorder σ) × Backend × Bool}
    (hf : ∀ s, h.sessions[i]? = some s → h.Advances made s (f s).1 (f s).2.1 (f s).2.2) :
    (h.call i f).Tracks made := by
  unfold Hub.call
  split
  · rename_i s hs
    exact t.set hs (hf s hs)
  · exact t

theorem Tracks.processEvents (t : h.Tracks made) (i : Nat) :
    (h.step (.processEvents i)).Tracks made := by
  simp only [step]
  refine t.call fun s hs => ?_
  rcases t.participates i s hs with ⟨-, hsurface, -⟩ | ⟨receiver, queue, a⟩
  · have hidle : s.processEvents h.backend = (0, s, h.backend) := by
      simp [Session.processEvents, hsurface]
    rw [hidle]
    exact t.idle hs
  · obtain ⟨a', hb, hsnapshots⟩ := a.processEvents
    refine ⟨a.receiver_eq ▸ hb, .inr ⟨receiver, [], a'⟩, ?_, ?_⟩
    · intro r hr
      rw [a.receiver_eq, ← hr, a'.receiver_eq]
    · intro ho
      rw [Backend.snapshot?, hsnapshots]
      exact t.fresh ho

/-- A session reads the history. -/
def loadHistory (h : Hub σ) (i now : Nat) : Hub σ := h.call i fun s =>
  let (s, b) := s.loadHistory h.backend now
  (s, b, h.outdated)

theorem Tracks.loadHistory (t : h.Tracks made) {i : Nat} (hm : ¬ h.IsMisled i) (now : Nat) :
    (h.loadHistory i now).Tracks made := by
  refine t.call fun s hs => ?_
  rcases t.participates i s hs with ⟨-, hsurface, -⟩ | ⟨receiver, queue, a⟩
  · have hidle : s.loadHistory h.backend now = (s, h.backend) := by
      simp [Session.loadHistory, hsurface]
    rw [hidle]
    exact t.idle hs
  · have hwaiting : h.waiting s = queue := a.waiting_eq
    -- A snapshot that is used is not out of date.
    obtain ⟨a', hkeeps⟩ := a.loadHistory now t.healthy fun hl hstale hu s' hs' => by
      cases ho : h.outdated with
      | false => exact t.fresh ho s' hs'
      | true =>
        exact absurd ⟨ho, Option.isSome_of_mem hs', s, hs, a.live, hl, hstale, hwaiting ▸ hu⟩ hm
    refine ⟨hkeeps.altersOnly _, .inr ⟨receiver, queue, a'⟩, ?_, ?_⟩
    · intro r hr
      rw [a.receiver_eq, ← hr, a'.receiver_eq]
    · intro ho
      rw [hkeeps.snapshot?_eq]
      exact t.fresh ho

theorem Tracks.flush (t : h.Tracks made) (i : Nat) : (h.step (.flush i)).Tracks made := by
  simp only [step]
  refine t.call fun s hs => ?_
  rcases s.flush_cases t.healthy with hidle | ⟨r, hsurface, hl, hflush⟩
  · rw [hidle]
    exact t.idle hs
  · rw [hflush]
    rcases t.participates i s hs with ⟨-, hnone, -⟩ | ⟨receiver, queue, a⟩
    · exact absurd (hsurface.symm.trans hnone) (by simp)
    · have hwaiting : h.waiting s = queue := a.waiting_eq
      refine ⟨⟨rfl, rfl, fun _ _ _ hd => hd⟩, .inr ⟨receiver, queue, a.resetSinceSnapshot.of_backend
        rfl a.delivers⟩, fun _ hr => hr, ?_⟩
      intro ho s' hs'
      have hu : Unbroken queue := by simpa [hwaiting] using ho
      rw [a.id_eq, a.settings, Backend.snapshot?_storeSnapshot, if_pos rfl] at hs'
      cases hs'
      exact a.shows_snapshotOf hsurface hl hu

theorem Tracks.dispose (t : h.Tracks made) (i : Nat) : (h.step (.dispose i)).Tracks made := by
  simp only [step]
  refine t.call fun s hs => ?_
  rcases t.participates i s hs with ⟨hd, -, -⟩ | ⟨receiver, queue, a⟩
  · have hidle : s.dispose h.backend = (s, h.backend) := by simp [Session.dispose, hd]
    rw [hidle]
    exact t.idle hs
  · have hdispose : (s.dispose h.backend).2 = h.backend.unsubscribe receiver ∧
        (s.dispose h.backend).1.disposed = true ∧ (s.dispose h.backend).1.surface = none ∧
        (s.dispose h.backend).1.receiver = none := by
      simp [Session.dispose, a.live, a.receiver_eq]
    obtain ⟨hb, hdisposed, hsurface, hreceiver⟩ := hdispose
    refine ⟨?_, .inl ⟨hdisposed, hsurface, hreceiver⟩, ?_, ?_⟩
    · simp only [hb, a.receiver_eq]
      exact Backend.altersOnly_updateSubscriber _ _ _
    · intro r hr
      exact absurd (hreceiver.symm.trans hr) (by simp)
    · simp only [hb]
      exact t.fresh

theorem Tracks.create (t : h.Tracks made) {display : σ} (hd : made display) :
    (h.step (.create display)).Tracks made := by
  have hnew := Session.attends_new made h.id h.config h.backend hd
  have hcases {j : Nat} {s : Session (Recorder σ)}
      (hj : (h.step (.create display)).sessions[j]? = some s) :
      h.sessions[j]? = some s ∨ j = h.sessions.length ∧
        s = (Session.new h.id ({ display } : Recorder σ) h.config h.backend).1 := by
    change (h.sessions ++ [_])[j]? = some s at hj
    rw [List.getElem?_append] at hj
    split at hj
    · exact .inl hj
    · rw [List.getElem?_singleton] at hj
      split at hj
      · exact .inr ⟨by omega, (Option.some.inj hj).symm⟩
      · cases hj
  -- Nobody has the new receiver yet.
  have hold {j : Nat} {s : Session (Recorder σ)} (hj : h.sessions[j]? = some s) :
      s.receiver ≠ some (h.backend.subscribe h.id).1 := by
    intro hr
    rcases t.participates j s hj with ⟨-, -, hnone⟩ | ⟨receiver, queue, a⟩
    · exact absurd (hr.symm.trans hnone) (by simp)
    · exact a.delivers.ne_subscribe h.id (Option.some.inj (a.receiver_eq.symm.trans hr))
  refine ⟨t.healthy, ?_, ?_, t.fresh⟩
  · intro j s hj
    rcases hcases hj with hj | ⟨-, rfl⟩
    · rcases t.participates j s hj with hdone | ⟨receiver, queue, a⟩
      · exact .inl hdone
      · exact .inr ⟨receiver, queue, a.of_backend rfl (a.delivers.subscribe h.id)⟩
    · exact .inr ⟨_, _, hnew⟩
  · intro j k s s' r hjk hj hk hr hr'
    rcases hcases hj with hj | ⟨hj, rfl⟩ <;> rcases hcases hk with hk | ⟨hk, rfl⟩
    · exact t.distinct j k s s' r hjk hj hk hr hr'
    · exact hold hj (hr.trans hr'.symm)
    · exact hold hk (hr'.trans hr.symm)
    · omega

/-! ### Whole runs -/

omit [Display σ] in
theorem changeAll_eq (h : Hub σ) (changes : List LogChange) :
    h.changeAll changes =
      { h with
        backend := h.backend.changeAll h.id changes
        outdated := h.outdated || changes.contains .truncate } := by
  induction changes generalizing h with
  | nil => simp [Hub.changeAll, Backend.changeAll]
  | cons c changes ih =>
    have hrest : h.changeAll (c :: changes) = (h.change c).changeAll changes := rfl
    rw [hrest, ih]
    cases c <;> simp [Hub.change, Backend.changeAll]

/-- Loading takes the notifications that wait, and reads the history as it is by then. -/
theorem step_load {i : Nat} {s : Session (Recorder σ)} (hs : h.sessions[i]? = some s)
    (hd : s.disposed = false) (now : Nat) (meanwhile : List LogChange) :
    h.step (.load i now meanwhile) =
      ((h.step (.processEvents i)).changeAll meanwhile).loadHistory i now := by
  obtain ⟨hi, rfl⟩ := List.getElem?_eq_some_iff.1 hs
  simp [step, changeAll_eq, Hub.loadHistory, Hub.call, Session.load, hd, hi]

theorem Tracks.load (t : h.Tracks made) {i now : Nat} {meanwhile : List LogChange}
    (hm : ¬ h.Misleads (.load i now meanwhile)) :
    (h.step (.load i now meanwhile)).Tracks made := by
  cases hs : h.sessions[i]? with
  | none => simpa only [Hub.step, Hub.call, hs] using t
  | some s =>
    cases hd : s.disposed with
    | false =>
      rw [step_load hs hd]
      exact ((t.processEvents i).changeAll meanwhile).loadHistory hm now
    | true =>
      -- A session that is disposed of does nothing, but the log changes.
      have hstep : h.step (.load i now meanwhile) = h.changeAll meanwhile := by
        obtain ⟨hi, rfl⟩ := List.getElem?_eq_some_iff.1 hs
        simp [Hub.step, changeAll_eq, Hub.call, Session.load, hd, hi]
      rw [hstep]
      exact t.changeAll meanwhile

theorem Tracks.step (t : h.Tracks made) {step : HubStep σ}
    (hmade : ∀ display, step = .create display → made display) (hm : ¬ h.Misleads step) :
    (h.step step).Tracks made := by
  cases step with
  | log c => exact t.change c
  | create display => exact t.create (hmade display rfl)
  | processEvents i => exact t.processEvents i
  | load i now meanwhile => exact t.load hm
  | flush i => exact t.flush i
  | dispose i => exact t.dispose i

theorem Tracks.run (t : h.Tracks made) {steps : List (HubStep σ)}
    (hmade : ∀ display, .create display ∈ steps → made display) (hs : h.Sound steps) :
    (h.run steps).Tracks made := by
  induction steps generalizing h with
  | nil => exact t
  | cons step steps ih =>
    have hfirst := t.step (fun display hd => hmade display (hd ▸ List.mem_cons_self)) hs.1
    exact ih hfirst (fun display hd => hmade display (List.mem_cons_of_mem _ hd)) hs.2

/-- In a sound run, a session that is live and has caught up was written the log as it is, or a
snapshot that another session took of the log up to an earlier position, and exactly what comes
after that position. -/
theorem shown_of_sound {id : Text} {config : Config} {b : Backend} (hf : b.failing = [])
    {steps : List (HubStep σ)} (hsound : (start id config b).Sound steps) :
    let h := (start id config b).run steps
    ∀ s ∈ h.sessions, s.disposed = false → h.CaughtUp s →
      ∃ r, s.surface = some r ∧
        Shown (fun display => .create display ∈ steps) h.log r.written h.log.length := by
  intro h s hs hd hc
  have tstart : (start id config b : Hub σ).Tracks fun display => .create display ∈ steps :=
    ⟨hf, by simp [start], by simp [start], by simp [start]⟩
  have t : h.Tracks fun display => .create display ∈ steps := tstart.run (fun _ hd => hd) hsound
  obtain ⟨i, hi⟩ := List.mem_iff_getElem?.1 hs
  rcases t.participates i s hi with ⟨hdone, -⟩ | ⟨receiver, queue, a⟩
  · exact absurd (hd.symm.trans hdone) (by simp)
  · obtain rfl : queue = [] := a.waiting_eq.symm.trans hc.2
    exact a.shown hc.1

/-- The log is restarted while a session listens, and a snapshot is saved before the next session
loads. -/
theorem shown_of_sound_wxyz :
    let steps : List HubStep :=
      [.create (Surface.new ⟨1, 8⟩), .load 0 0 [.append [0x61, 0x62, 0x63]], .processEvents 0,
        .flush 0, .log .truncate, .log (.append [0x77, 0x78]), .processEvents 0, .flush 0,
        .dispose 0, .log (.append [0x79]), .create (Surface.new ⟨2, 4⟩), .load 1 0 [],
        .log (.append [0x7A]), .processEvents 1]
    let h := (start [] {} {}).run steps
    ∃ s ∈ h.sessions, ∃ r, s.surface = some r ∧
      r.display.screen.screenLines = ["wxyz".toList, []] ∧
      Shown (fun display => .create display ∈ steps) h.log r.written h.log.length := by
  intro steps h
  have hsound : (start [] {} {}).Sound steps := by decide
  have hstate : ∃ s ∈ h.sessions, s.disposed = false ∧ h.CaughtUp s ∧
      ∃ r ∈ s.surface, r.display.screen.screenLines = ["wxyz".toList, []] := by decide +kernel
  obtain ⟨s, hs, hd, hc, r, hr, hlines⟩ := hstate
  obtain ⟨r', hr', hshown⟩ := shown_of_sound rfl hsound s hs hd hc
  obtain rfl : r = r' := Option.some.inj (hr.symm.trans hr')
  exact ⟨s, hs, r, hr, hlines, hshown⟩

/-! ### Restarts that nobody was told of -/

/-- A session that subscribes and loads is written the stored snapshot, and what the log has beyond
the snapshot's offset, whatever the log was when the snapshot was saved. -/
theorem written_load_new {id : Text} (display : σ) {config : Config} {b : Backend} {t : Snapshot}
    (hf : b.failing = []) (ht : b.snapshot? id config.snapshots.kind = some t) (hd : t.data ≠ [])
    (now : Nat) :
    let (s, b') := Session.new id ({ display } : Recorder σ) config b
    ∃ r, (s.load b' now).1.surface = some r ∧
      r.written = Utf8.encode t.data ++ (b.log id).toList.drop t.offset := by
  obtain ⟨b', hlogs, hsnapshots, hfailing, -, hsurface⟩ :=
    Session.load_new id ({ display } : Recorder σ) config b now
  have hlog : b'.log id = b.log id := by simp [Backend.log, hlogs]
  have hsnapshot : b'.snapshot? id config.snapshots.kind = some t := by
    rw [Backend.snapshot?, hsnapshots]
    exact ht
  have hf' := hfailing.trans hf
  have hrestored : Rendering.restored ⟨{}, ({ display } : Recorder σ)⟩ b' id config.snapshots.kind =
      Rendering.applySnapshot ⟨{}, { display }⟩ t :=
    Rendering.restored_of_snapshot rfl hf' hsnapshot hd
  have hload := Rendering.surface_load rfl hf' hrestored rfl
  obtain ⟨calls, hcalls, hwritten⟩ :=
    Rendering.exists_calls_applySnapshot ⟨{}, ({ display } : Recorder σ)⟩ t
  have hposition : (Rendering.applySnapshot ⟨{}, ({ display } : Recorder σ)⟩ t).output.position =
      t.offset := rfl
  rw [hcalls, ← performAll_append, Recorder.performAll_recorder, hposition, hlog] at hload
  refine ⟨_, hsurface.trans (congrArg some hload), ?_⟩
  rw [Rendering.written_append_callsFor]
  exact congrArg (· ++ _) (hwritten [])

/-- The run of a session that is misled.  The first session saves a snapshot and goes, the log is
restarted, and the second session shows the snapshot and the end of the new log. -/
theorem shown_after_restart :
    let steps : List HubStep :=
      [.create (Surface.new ⟨1, 8⟩), .load 0 0 [], .log (.append [0x61, 0x62, 0x63]),
        .processEvents 0, .flush 0, .dispose 0, .log .truncate,
        .log (.append [0x77, 0x78, 0x79, 0x7A]), .create (Surface.new ⟨1, 8⟩), .load 1 0 [],
        .processEvents 1]
    let h := (start [] {} {}).run steps
    ¬ (start [] {} {}).Sound steps ∧ h.log = Utf8.encode "wxyz".toList ∧
      ∃ s ∈ h.sessions, h.CaughtUp s ∧
        ∃ r ∈ s.surface, r.display.screen.screenLines = ["abcz".toList] := by
  decide +kernel

end Hub

end TermSession
