import TermSession.Proofs.Session.Accounting
import TermSession.Proofs.Session.Coverage

/-!
# When saving is attempted

The only call that saves a snapshot unasked is a poll, and whether it does depends on the idle timer
and on the count of what was rendered.

* `Session.saves`: the polls that save; `Session.pollTimers_eq`: what a poll leaves;
* `Session.saveAttempts_perform`: how often a call has the backend save;
* `Host.exists_perform_processEvents`, `Host.exists_loadHistory`: the calls that render;
* `Host.attempts`, `Host.attemptTimes`: the attempts in a run; `saveAttempts_advanceAll`.
-/

namespace TermSession

variable {σ : Type} [Display σ]

/-! ### What a backend counts -/

namespace Backend

/-- An attempt counts, whether or not it fails. -/
theorem saveAttempts_saveSnapshot (b : Backend) (session kind : Text) (s : Thunk Snapshot) :
    (b.saveSnapshot session kind s).2.saveAttempts = b.saveAttempts + 1 := by
  unfold saveSnapshot
  dsimp only
  split <;> rfl

theorem saveAttempts_resync (b : Backend) (session : Text) (size : Size) :
    (b.resync session size).2.saveAttempts = b.saveAttempts := by
  unfold resync
  dsimp only
  split <;> rfl

theorem saveAttempts_sendInput (b : Backend) (session : Text) (data : List UInt8) :
    (b.sendInput session data).2.saveAttempts = b.saveAttempts := by
  unfold sendInput
  dsimp only
  split <;> rfl

theorem saveAttempts_dispatch (b : Backend) (session : Text) (commands : List OscCommand)
    (loaded : Bool) :
    (b.dispatch session commands loaded).2.saveAttempts = b.saveAttempts :=
  dispatch_induction (P := fun b' => b'.saveAttempts = b.saveAttempts)
    (fun b' ref patch h => by
      unfold updateMeta
      split <;> exact h) rfl

theorem saveAttempts_undergoAll (b : Backend) (changes : List BackendChange) :
    (b.undergoAll changes).saveAttempts = b.saveAttempts :=
  undergoAll_induction (P := fun b' => b'.saveAttempts = b.saveAttempts)
    (fun change _ b' h => by cases change <;> exact h) rfl

end Backend

theorem Resizing.saveAttempts_apply (z : Resizing) (size : Size) (surface : σ) (b : Backend)
    (session : Text) :
    (z.apply size surface b session).2.2.2.saveAttempts = b.saveAttempts := by
  have hset (told : Prop) [Decidable told] (new : Size) :
      (if told then b.setSize session new else b).saveAttempts = b.saveAttempts := by
    split <;> rfl
  unfold apply
  dsimp only
  by_cases hp : size.isPositive
  · rw [if_pos hp]
    dsimp only
    by_cases hr : z.hasResized
    · rw [if_pos hr, hset]
    · rw [if_neg hr, Backend.saveAttempts_resync, hset]
  · rw [if_neg hp]

/-! ### Polls -/

namespace Session

/-- Does a poll at `now` save a snapshot? -/
def saves (s : Session σ) (now : Nat) : Bool :=
  s.surface.isSome && s.timer.isDue now && s.timer.wants s.output false

omit [Display σ] in
theorem saves_iff (s : Session σ) (now : Nat) :
    s.saves now = true ↔ s.surface.isSome = true ∧ (∃ due ∈ s.timer.nextTick, due ≤ now) ∧
      s.isLoaded = true ∧ s.timer.settings.minBytes ≤ s.output.sinceSnapshot := by
  simp [saves, SnapshotTimer.isDue, SnapshotTimer.wants, isLoaded, Option.any_eq_true, and_assoc]

omit [Display σ] in
theorem saves_congr {s s' : Session σ} (hsurface : s'.surface.isSome = s.surface.isSome)
    (htimer : s'.timer = s.timer) (houtput : s'.output = s.output) (now : Nat) :
    s'.saves now = s.saves now := by
  unfold saves
  rw [hsurface, htimer, houtput]

omit [Display σ] in
theorem sameOutput_expirePaste (s : Session σ) (now : Nat) : s.SameOutput (s.expirePaste now) := by
  unfold expirePaste
  split <;> exact ⟨rfl, rfl, rfl, rfl, rfl, rfl, rfl, rfl⟩

theorem isSome_pollResizing (s : Session σ) (b : Backend) (now : Nat) :
    (s.pollResizing b now).1.surface.isSome = s.surface.isSome := by
  unfold pollResizing
  split
  · rename_i surface hs
    rw [hs]
    rfl
  · rfl

/-- A tick that saves starts the count anew, whether or not the store takes the snapshot; and a tick
that is due sets the next one, whether or not it saves. -/
theorem pollSnapshots_eq (s : Session σ) (b : Backend) (now : Nat) :
    (s.pollSnapshots b now).1 =
        { s with
          output := if s.saves now then s.output.resetSinceSnapshot else s.output
          timer := if s.surface.isSome && s.timer.isDue now then s.timer.start now else s.timer } ∧
      (s.pollSnapshots b now).2.saveAttempts = b.saveAttempts + (s.saves now).toNat := by
  unfold pollSnapshots saves
  cases hs : s.surface with
  | none =>
    refine ⟨?_, rfl⟩
    simp only [Option.isSome_none, Bool.false_and, Bool.false_eq_true, if_false]
    rw [← hs]
  | some surface =>
    simp only [SnapshotTimer.poll, SnapshotTimer.flush, Option.isSome_some, Bool.true_and]
    cases hdue : s.timer.isDue now with
    | false => exact ⟨by simp [withRendering, ← hs], rfl⟩
    | true =>
      cases hwants : s.timer.wants s.output false with
      | false => exact ⟨by simp [withRendering, ← hs], rfl⟩
      | true => exact ⟨by simp [withRendering, ← hs], b.saveAttempts_saveSnapshot _ _ _⟩

theorem saveAttempts_pollResizing (s : Session σ) (b : Backend) (now : Nat) :
    (s.pollResizing b now).2.saveAttempts = b.saveAttempts := by
  unfold pollResizing Resizing.poll
  split
  · dsimp only
    split
    · exact Resizing.saveAttempts_apply _ _ _ _ _
    · rfl
  · rfl

/-- What a poll leaves is what its idle tick leaves. -/
theorem pollTimers_eq (s : Session σ) (b : Backend) (now : Nat) :
    (s.pollTimers b now).1.output =
        (if s.saves now then s.output.resetSinceSnapshot else s.output) ∧
      (s.pollTimers b now).1.timer =
        (if s.surface.isSome && s.timer.isDue now then s.timer.start now else s.timer) ∧
      (s.pollTimers b now).2.saveAttempts = b.saveAttempts + (s.saves now).toNat := by
  have hexpired := s.sameOutput_expirePaste now
  obtain ⟨-, htimer, houtput, -⟩ := (s.expirePaste now).pollResizing_rest b now
  have hsurface := (s.expirePaste now).isSome_pollResizing b now
  have hattempts := (s.expirePaste now).saveAttempts_pollResizing b now
  rw [hexpired.timer_eq] at htimer
  rw [hexpired.output_eq] at houtput
  rw [hexpired.surface_eq] at hsurface
  obtain ⟨hsession, hsaved⟩ := ((s.expirePaste now).pollResizing b now).1.pollSnapshots_eq
    ((s.expirePaste now).pollResizing b now).2 now
  rw [saves_congr hsurface htimer houtput, hsurface, htimer, houtput] at hsession
  rw [saves_congr hsurface htimer houtput, hattempts] at hsaved
  exact ⟨congrArg output hsession, congrArg timer hsession, hsaved⟩

/-! ### Calls -/

/-- A call that is about something else leaves the count and the timer as they are. -/
theorem perform_untimed (s : Session σ) (b : Backend) {c : SessionCall} (hc : c.isAside = true)
    (hf : c ≠ .flush) (hp : ∀ now, c ≠ .pollTimers now) :
    (s.perform b c).1.output = s.output ∧ (s.perform b c).1.timer = s.timer := by
  cases ho : c.isOutput with
  | false =>
    have hd : c ≠ .dispose := by
      rintro rfl
      cases hc
    have hsame := sameOutput_perform s b ho hd
    exact ⟨hsame.output_eq, hsame.timer_eq⟩
  | true =>
    cases c with
    | requestSize size now =>
      simp only [perform, requestSize]
      split <;> exact ⟨rfl, rfl⟩
    | fit size =>
      simp only [perform, fit]
      split <;> exact ⟨rfl, rfl⟩
    | flush => exact absurd rfl hf
    | pollTimers now => exact absurd rfl (hp now)
    | load | processEvents => cases hc
    | _ => cases ho

/-- Is the call a poll that saves a snapshot? -/
def savesIn (s : Session σ) : SessionCall → Bool
  | .pollTimers now => s.saves now
  | _ => false

theorem saveAttempts_handleEvents (id : Text) (events : List LogEvent) (r : Rendering σ)
    (b : Backend) : (events.foldl (handleEvent id) (r, b)).2.saveAttempts = b.saveAttempts := by
  induction events generalizing r b with
  | nil => rfl
  | cons e events ih => exact (ih _ _).trans (Backend.saveAttempts_dispatch _ _ _ _)

theorem saveAttempts_processEvents (s : Session σ) (b : Backend) :
    (s.processEvents b).2.2.saveAttempts = b.saveAttempts := by
  unfold processEvents
  split
  · exact saveAttempts_handleEvents _ _ _ _
  · rfl

theorem saveAttempts_loadHistory (s : Session σ) (b : Backend) (now : Nat) :
    (s.loadHistory b now).2.saveAttempts = b.saveAttempts := by
  have hload (r : Rendering σ) (session kind : Text) :
      (r.load b session kind).2.2.saveAttempts = b.saveAttempts := by
    unfold Rendering.load
    split <;> rfl
  unfold loadHistory
  split
  · rfl
  · split
    · exact (Backend.saveAttempts_dispatch _ _ _ _).trans (hload _ _ _)
    · rfl

/-- Apart from a forced one, a call has the backend save once if it is a poll that saves, and never
otherwise. -/
theorem saveAttempts_perform (s : Session σ) (b : Backend) {c : SessionCall} (hc : c ≠ .flush) :
    (s.perform b c).2.saveAttempts = b.saveAttempts + (s.savesIn c).toNat := by
  cases c with
  | pollTimers now => exact (s.pollTimers_eq b now).2.2
  | flush => exact absurd rfl hc
  | processEvents => exact s.saveAttempts_processEvents b
  | load now meanwhile =>
    simp only [perform, load]
    split
    · exact b.saveAttempts_undergoAll meanwhile
    · exact (saveAttempts_loadHistory _ _ now).trans
        ((Backend.saveAttempts_undergoAll _ meanwhile).trans (s.saveAttempts_processEvents b))
  | fit size =>
    simp only [perform, fit]
    split
    · exact Resizing.saveAttempts_apply _ _ _ _ _
    · rfl
  | dispose =>
    simp only [perform, dispose]
    split
    · rfl
    · dsimp only
      split <;> rfl
  | write | key | data | paste | compositionEnd =>
    exact perform_sends (P := fun b' => b'.saveAttempts = b.saveAttempts)
      (fun b' session data h => (b'.saveAttempts_sendInput session data).trans h) s rfl rfl
  | _ => rfl

end Session

/-! ### Taking notifications and loading -/

namespace Rendering

theorem loaded_handle (r : Rendering σ) (e : LogEvent) :
    (r.handle e).1.output.loaded = r.output.loaded := by
  cases e with
  | truncate offset => rfl
  | append offset data =>
    cases hl : r.output.loaded with
    | true =>
      obtain ⟨-, -, -, hloaded, -⟩ := exists_calls_append r ⟨offset, data⟩
      simpa [handle, hl] using hloaded
    | false => simp [handle, hl]

/-- Notifications load no history. -/
theorem loaded_handleAll (r : Rendering σ) (events : List LogEvent) :
    (r.handleAll events).output.loaded = r.output.loaded := by
  induction events generalizing r with
  | nil => rfl
  | cons e events ih => exact (ih _).trans (r.loaded_handle e)

theorem loaded_load (r : Rendering σ) (a : Answers) :
    (r.respond (.load a)).output.loaded = true := by
  cases hl : r.output.loaded with
  | true => rwa [respond_load_of_loaded hl]
  | false =>
    obtain ⟨-, -, -, hloaded, -⟩ := exists_calls_appendAll ((r.afterSnapshot a).afterTail a).opened
      ((r.afterSnapshot a).afterTail a).output.held
    rw [respond_load hl, hloaded]
    rfl

end Rendering

namespace Host

/-- A session without a display or a receiver takes no notifications. -/
theorem perform_processEvents_idle {h : Host σ}
    (hn : h.session.surface = none ∨ h.session.receiver = none) : h.perform .processEvents = h := by
  have hidle : (h.session.processEvents h.backend).2 = (h.session, h.backend) := by
    rcases hn with hs | hr
    · simp [Session.processEvents, hs]
    · cases hs : h.session.surface <;> simp [Session.processEvents, hs, hr]
  simp only [perform, Session.perform, hidle]

/-- Taking the notifications renders those that wait, and does nothing else to the backend but change
metadata. -/
theorem exists_perform_processEvents {h : Host σ} {surface : σ} {receiver : Receiver}
    (hs : h.session.surface = some surface) (hr : h.session.receiver = some receiver) :
    ∃ b, h.perform .processEvents =
        ⟨h.session.withRendering
          (Rendering.handleAll ⟨h.session.output, surface⟩ (h.backend.waiting receiver)), b⟩ ∧
      (h.backend.receiveAll receiver).2.Keeps b ∧ b.saveAttempts = h.backend.saveAttempts := by
  obtain ⟨hrendering, hkeeps⟩ := Session.foldl_handleEvent h.session.id
    (h.backend.waiting receiver) ⟨h.session.output, surface⟩ (h.backend.receiveAll receiver).2
  refine ⟨_, ?_, hkeeps, Session.saveAttempts_handleEvents _ _ _ _⟩
  rw [← hrendering]
  simp only [perform, Session.perform, Session.processEvents_eq hs hr]

omit [Display σ] in
theorem listening_cases (h : Host σ) :
    (h.session.surface = none ∨ h.session.receiver = none) ∨
      ∃ surface receiver, h.session.surface = some surface ∧ h.session.receiver = some receiver := by
  cases h.session.surface with
  | none => exact .inl (.inl rfl)
  | some surface =>
    cases h.session.receiver with
    | none => exact .inl (.inr rfl)
    | some receiver => exact .inr ⟨surface, receiver, rfl, rfl⟩

theorem loadHistory_released {h : Host σ} (hs : h.session.surface = none) (now : Nat) :
    h.loadHistory now = h := by
  cases hl : h.session.isLoaded <;> simp [loadHistory, Session.loadHistory, hl, hs]

/-- Loading the history renders what the backend answers, starts the idle timer, and does nothing
to the backend but look and change metadata. -/
theorem exists_loadHistory {h : Host σ} {surface : σ} (hl : h.session.isLoaded = false)
    (hs : h.session.surface = some surface) (now : Nat) :
    ∃ b, h.loadHistory now =
        ⟨{ h.session.withRendering (Rendering.respond ⟨h.session.output, surface⟩
            (.load (h.backend.answers h.session.id h.session.timer.settings.kind))) with
          timer := h.session.timer.start now }, b⟩ ∧
      h.backend.Keeps b ∧ b.saveAttempts = h.backend.saveAttempts := by
  have hload := congrArg Prod.fst (Rendering.load_eq_loadFrom ⟨h.session.output, surface⟩ h.backend
    h.session.id h.session.timer.settings.kind)
  refine ⟨(h.loadHistory now).backend, ?_, ?_, h.session.saveAttempts_loadHistory h.backend now⟩
  · rw [Rendering.respond, ← hload]
    simp [loadHistory, Session.loadHistory, hl, hs]
  · simp only [loadHistory, Session.loadHistory, hl, hs]
    exact (Rendering.keeps_load _ _ _ _).trans (Backend.keeps_dispatch _ _ _ _)

end Host

/-! ### Attempts in a run -/

/-- The time of a poll. -/
def HostEvent.polled? : HostEvent → Option Nat
  | .call (.pollTimers now) => some now
  | _ => none

namespace Host

/-- Is the backend asked to save a snapshot in the event? -/
def attempts (h : Host σ) (e : HostEvent) : Bool :=
  decide (h.backend.saveAttempts < (h.advance e).backend.saveAttempts)

/-- The times of the polls of a run in which the backend is asked to save a snapshot, in order. -/
def attemptTimes (h : Host σ) : List HostEvent → List Nat
  | [] => []
  | e :: events =>
    (if h.attempts e then e.polled?.toList else []) ++ (h.advance e).attemptTimes events

/-- The backend is asked to save by the polls that save, once each. -/
theorem saveAttempts_advance (h : Host σ) {e : HostEvent} (he : e ≠ .call .flush) :
    (h.advance e).backend.saveAttempts = h.backend.saveAttempts + (h.attempts e).toNat ∧
      (h.attempts e = true ↔ ∃ now, e = .call (.pollTimers now) ∧ h.session.saves now = true) := by
  cases e with
  | backend change =>
    have hkept : (h.advance (.backend change)).backend.saveAttempts = h.backend.saveAttempts :=
      h.backend.saveAttempts_undergoAll [change]
    simp [attempts, hkept]
  | call c =>
    have hsaved : (h.advance (.call c)).backend.saveAttempts =
        h.backend.saveAttempts + (h.session.savesIn c).toNat :=
      h.session.saveAttempts_perform h.backend fun hc => he (congrArg HostEvent.call hc)
    have hattempts : h.attempts (.call c) = h.session.savesIn c := by
      rw [attempts, hsaved]
      cases h.session.savesIn c <;> simp
    rw [hattempts]
    refine ⟨hsaved, ?_⟩
    cases c <;> simp [Session.savesIn]

/-- Every time at which the backend is asked to save is counted. -/
theorem saveAttempts_advanceAll (h : Host σ) {events : List HostEvent}
    (he : .call .flush ∉ events) :
    (h.advanceAll events).backend.saveAttempts =
      h.backend.saveAttempts + (h.attemptTimes events).length := by
  induction events generalizing h with
  | nil => rfl
  | cons e events ih =>
    obtain ⟨hsaved, hpoll⟩ := h.saveAttempts_advance (List.ne_of_not_mem_cons he).symm
    have hone : (if h.attempts e then e.polled?.toList else []).length = (h.attempts e).toNat := by
      cases ha : h.attempts e with
      | false => rfl
      | true =>
        obtain ⟨now, rfl, -⟩ := hpoll.1 ha
        rfl
    rw [advanceAll_cons, ih _ (List.not_mem_of_not_mem_cons he), hsaved, attemptTimes,
      List.length_append, hone, Nat.add_assoc]

theorem attemptTimes_append (h : Host σ) (events events' : List HostEvent) :
    h.attemptTimes (events ++ events') =
      h.attemptTimes events ++ (h.advanceAll events).attemptTimes events' := by
  induction events generalizing h with
  | nil => rfl
  | cons e events ih =>
    rw [List.cons_append, attemptTimes, ih, attemptTimes, advanceAll_cons, List.append_assoc]

end Host

end TermSession
