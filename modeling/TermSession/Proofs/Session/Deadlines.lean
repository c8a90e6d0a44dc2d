import TermSession.Proofs.Session.Disposal
import TermSession.Proofs.Session.SaveAttempts
import TermSession.Proofs.Session.Sizes

/-!
# Deadlines

A host that sleeps until the next deadline misses nothing and is not woken in vain: before it a poll
does nothing, and after a poll every deadline that is left is still to come.

* `Session.Reachable`: the sessions that calls lead to, over any backends;
  `Reachable.spent_or_shown`, `Reachable.settings_eq`;
* `Session.deadlines`; `Session.pollTimers_idle`: a poll at which nothing is due;
* `Session.lt_of_mem_deadlines_pollTimers`: what is left after a poll;
* `Host.advanceSleeping`: runs with a host that sleeps until the next deadline;
* `Session.Reachable.deadlines_exact`: all of it, for every session.
-/

namespace TermSession

variable {σ : Type}

/-! ### Single timers -/

namespace Debouncer

variable {α : Type} {d : Debouncer α} {now : Nat}

/-- What still waits after a poll is not due. -/
theorem lt_due_poll (d : Debouncer α) (now : Nat) : ∀ p ∈ (d.poll now).2.pending, now < p.due := by
  intro p hp
  by_cases hidle : ∀ p ∈ d.pending, now < p.due
  · rw [poll_of_idle hidle] at hp
    exact hidle p hp
  · obtain ⟨first, hfirst, hdue⟩ : ∃ first ∈ d.pending, first.due ≤ now := by simpa using hidle
    rw [poll_of_due hfirst hdue] at hp
    cases hp

/-- A poll that takes nothing out leaves what waits. -/
theorem poll_of_none (h : (d.poll now).1 = none) : (d.poll now).2 = d := by
  by_cases hidle : ∀ p ∈ d.pending, now < p.due
  · rw [poll_of_idle hidle]
  · obtain ⟨first, hfirst, hdue⟩ : ∃ first ∈ d.pending, first.due ≤ now := by simpa using hidle
    rw [poll_of_due hfirst hdue] at h
    cases h

end Debouncer

/-- Applying a size is nothing to those that wait. -/
theorem Resizing.debouncer_poll [Display σ] (z : Resizing) (now : Nat) (surface : σ) (b : Backend)
    (session : Text) :
    (z.poll now surface b session).2.1.debouncer = (z.debouncer.poll now).2 := by
  unfold poll
  cases hpoll : z.debouncer.poll now with
  | mk size? debouncer =>
    cases size? with
    | some size =>
      obtain ⟨-, -, -, -, -, hkept⟩ :=
        Host.exists_calls_apply { z with debouncer } size surface b session
      exact hkept
    | none =>
      have hidle := Debouncer.poll_of_none (congrArg Prod.fst hpoll)
      rw [hpoll] at hidle
      exact hidle.symm

/-- What is not due is still to come. -/
theorem not_due_iff {due? : Option Nat} {now : Nat} :
    ¬due?.any (· ≤ now) = true ↔ ∀ due ∈ due?, now < due := by
  cases due? <;> simp

namespace SnapshotTimer

variable {t : SnapshotTimer} {now : Nat}

theorem isDue_of_idle (h : ∀ due ∈ t.nextTick, now < due) : t.isDue now = false :=
  Bool.eq_false_iff.2 (not_due_iff.2 h)

/-- The tick that follows a poll is still to come, unless the idle interval is zero. -/
theorem lt_nextTick_poll (hinterval : 0 < t.settings.interval) :
    ∀ due ∈ (if t.isDue now then t.start now else t).nextTick, now < due := by
  split
  · rintro due ⟨⟩
    exact Nat.lt_add_of_pos_right hinterval
  · rename_i hidle
    exact not_due_iff.1 hidle

end SnapshotTimer

/-! ### Polls -/

namespace Session

/-- The times that timers wait for. -/
def deadlines (s : Session σ) : List Nat :=
  [s.resizing.deadline, s.timer.nextTick, s.pasteUntil].filterMap fun d => d

theorem nextDeadline_eq_min? (s : Session σ) : s.nextDeadline = s.deadlines.min? := rfl

/-- The earliest deadline is still to come just when all of them are. -/
theorem forall_mem_nextDeadline (s : Session σ) (now : Nat) :
    (∀ d ∈ s.nextDeadline, now < d) ↔ ∀ d ∈ s.deadlines, now < d := by
  rw [nextDeadline_eq_min?]
  cases hmin : s.deadlines.min? with
  | none => simp [List.min?_eq_none_iff.1 hmin]
  | some first => simpa [Nat.succ_le_iff] using List.le_min?_iff hmin (x := now + 1)

theorem forall_mem_deadlines (s : Session σ) (now : Nat) :
    (∀ d ∈ s.deadlines, now < d) ↔ (∀ p ∈ s.resizing.debouncer.pending, now < p.due) ∧
      (∀ due ∈ s.timer.nextTick, now < due) ∧ ∀ stop ∈ s.pasteUntil, now < stop := by
  cases hp : s.resizing.debouncer.pending <;> cases ht : s.timer.nextTick <;>
    cases hu : s.pasteUntil <;>
    simp [deadlines, Resizing.deadline, Debouncer.deadline, hp, ht, hu]

theorem expirePaste_idle {s : Session σ} {now : Nat} (h : ∀ stop ∈ s.pasteUntil, now < stop) :
    s.expirePaste now = s :=
  if_neg (not_due_iff.2 h)

theorem lt_pasteUntil_expirePaste (s : Session σ) (now : Nat) :
    ∀ stop ∈ (s.expirePaste now).pasteUntil, now < stop := by
  unfold expirePaste
  split
  · rintro stop ⟨⟩
  · rename_i hidle
    exact not_due_iff.1 hidle

variable [Display σ]

/-- Before every deadline a poll does nothing to the session, its display and its backend. -/
theorem pollTimers_idle {s : Session σ} {now : Nat} (h : ∀ d ∈ s.deadlines, now < d)
    (b : Backend) : s.pollTimers b now = (s, b) := by
  obtain ⟨hsize, htick, hpaste⟩ := (s.forall_mem_deadlines now).1 h
  have hresizing : s.pollResizing b now = (s, b) := by
    unfold pollResizing
    split
    · rename_i surface hs
      simp only [Resizing.poll, Debouncer.poll_of_idle hsize, ← hs]
    · rfl
  have hsnapshots : s.pollSnapshots b now = (s, b) := by
    unfold pollSnapshots
    split
    · rename_i surface hs
      simp [SnapshotTimer.poll, SnapshotTimer.isDue_of_idle htick, withRendering, ← hs]
    · rfl
  simp only [pollTimers, expirePaste_idle hpaste, hresizing, hsnapshots]

/-- A poll of a session that shows a display polls each of its timers. -/
theorem timers_pollTimers {s : Session σ} (hs : s.surface.isSome = true) (b : Backend) (now : Nat) :
    (s.pollTimers b now).1.resizing.debouncer = (s.resizing.debouncer.poll now).2 ∧
      (s.pollTimers b now).1.timer = (if s.timer.isDue now then s.timer.start now else s.timer) ∧
      (s.pollTimers b now).1.pasteUntil = (s.expirePaste now).pasteUntil := by
  have hexpired := s.sameOutput_expirePaste now
  obtain ⟨surface, hsurface⟩ := Option.isSome_iff_exists.1 hs
  have hsession := (((s.expirePaste now).pollResizing b now).1.pollSnapshots_eq
    ((s.expirePaste now).pollResizing b now).2 now).1
  refine ⟨?_, ?_, ?_⟩
  · refine (congrArg (·.resizing.debouncer) hsession).trans ?_
    simp only [pollResizing, hexpired.surface_eq, hsurface, hexpired.resizing_eq]
    exact s.resizing.debouncer_poll now surface b _
  · have htimer := (s.pollTimers_eq b now).2.1
    rwa [hs, Bool.true_and] at htimer
  · refine (congrArg Session.pasteUntil hsession).trans ?_
    unfold pollResizing
    split <;> rfl

/-- After a poll every deadline that is left is still to come. -/
theorem lt_of_mem_deadlines_pollTimers {s : Session σ} (hs : s.surface.isSome = true)
    (hinterval : 0 < s.timer.settings.interval) (b : Backend) (now : Nat) :
    ∀ d ∈ (s.pollTimers b now).1.deadlines, now < d := by
  obtain ⟨hdebouncer, htimer, hpaste⟩ := timers_pollTimers hs b now
  rw [forall_mem_deadlines, hdebouncer, htimer, hpaste]
  exact ⟨s.resizing.debouncer.lt_due_poll now, SnapshotTimer.lt_nextTick_poll hinterval,
    s.lt_pasteUntil_expirePaste now⟩

/-! ### Sessions that calls lead to -/

/-- The sessions of one configuration that calls lead to.  From one call to the next anything may
happen to the backend, so each call finds any backend at all. -/
inductive Reachable (config : Config) : Session σ → Prop where
  | new (id : Text) (display : σ) (b : Backend) : Reachable config (new id display config b).1
  | perform {s : Session σ} (b : Backend) (c : SessionCall) :
      Reachable config s → Reachable config (s.perform b c).1

/-- No call changes when snapshots are saved, and of which kind. -/
theorem settings_perform (s : Session σ) (b : Backend) (c : SessionCall) :
    (s.perform b c).1.timer.settings = s.timer.settings := by
  have hevents (s : Session σ) : (s.processEvents b).2.1.timer = s.timer := by
    unfold processEvents
    split <;> rfl
  cases hc : c.isAside with
  | true => exact (s.resized_perform b hc).settings_eq
  | false =>
    cases c with
    | processEvents => exact congrArg SnapshotTimer.settings (hevents s)
    | load now meanwhile =>
      have hhistory (s : Session σ) (b : Backend) :
          (s.loadHistory b now).1.timer.settings = s.timer.settings := by
        unfold loadHistory
        split
        · rfl
        · split <;> rfl
      simp only [perform, load]
      split
      · rfl
      · exact (hhistory _ _).trans (congrArg SnapshotTimer.settings (hevents s))
    | dispose =>
      simp only [perform, dispose]
      split <;> rfl
    | _ => cases hc

namespace Reachable

variable {config : Config} {s : Session σ}

theorem settings_eq (h : s.Reachable config) : s.timer.settings = config.snapshots := by
  induction h with
  | new id display b => rfl
  | perform b c _ ih => rw [settings_perform, ih]

/-- A session shows a display until it is disposed of, and then it waits for nothing. -/
theorem spent_or_shown (h : s.Reachable config) :
    s.IsSpent ∨ s.disposed = false ∧ s.surface.isSome = true := by
  induction h with
  | new id display b => exact .inr ⟨rfl, rfl⟩
  | @perform s b c _ ih =>
    rcases ih with hspent | ⟨hlive, hshown⟩
    · rw [hspent.perform]
      exact .inl (hspent.switched c)
    · by_cases hc : c = .dispose
      · subst hc
        exact .inl (spent_dispose hlive b)
      · obtain ⟨calls, hcalls⟩ := s.exists_calls_perform_of_ne b hc
        exact .inr ⟨(s.perform_live b hc).trans hlive, by rw [hcalls, Option.isSome_map, hshown]⟩

end Reachable

end Session

/-! ### Hosts that sleep -/

namespace Host

variable [Display σ] {config : Config} {h : Host σ}

/-- Every run leads to such a session. -/
theorem reachable_advanceAll (hs : h.session.Reachable config) (events : List HostEvent) :
    (h.advanceAll events).session.Reachable config := by
  induction events generalizing h with
  | nil => exact hs
  | cons e events ih =>
    refine ih ?_
    cases e with
    | call c => exact hs.perform h.backend c
    | backend change => exact hs

/-- Is the event a poll before the next deadline? -/
def isEarly (h : Host σ) : HostEvent → Bool
  | .call (.pollTimers now) => !h.session.nextDeadline.any (· ≤ now)
  | _ => false

/-- A run with a host that sleeps until the next deadline, and leaves out the polls before it. -/
def advanceSleeping (h : Host σ) : List HostEvent → Host σ
  | [] => h
  | e :: events =>
    if h.isEarly e then h.advanceSleeping events else (h.advance e).advanceSleeping events

theorem advance_of_isEarly {e : HostEvent} (he : h.isEarly e = true) : h.advance e = h := by
  cases e with
  | backend change => cases he
  | call c =>
    cases c with
    | pollTimers now =>
      have hlater := (h.session.forall_mem_nextDeadline now).1
        (not_due_iff.1 (by simpa [isEarly] using he))
      simp only [advance, perform, Session.perform, Session.pollTimers_idle hlater h.backend]
    | _ => cases he

/-- Nothing is missed by sleeping. -/
theorem advanceSleeping_eq (h : Host σ) (events : List HostEvent) :
    h.advanceSleeping events = h.advanceAll events := by
  induction events generalizing h with
  | nil => rfl
  | cons e events ih =>
    rw [advanceSleeping, advanceAll_cons, ih, ih]
    split
    · rename_i he
      rw [advance_of_isEarly he]
    · rfl

end Host

/-! ### All sessions -/

namespace Session.Reachable

variable [Display σ] {config : Config} {s : Session σ}

/-- Deadlines are exact, whatever the session was called with and whatever its backends did.  As
long as the next deadline is to come, a poll changes nothing.  If ticks are apart, every deadline
that is left after a poll is still to come, so that a poll that is due changes the session.  And in
any run that goes on from there, a host that sleeps until the next deadline misses nothing. -/
theorem deadlines_exact (hs : s.Reachable config) (b : Backend) (now : Nat) :
    ((∀ d ∈ s.nextDeadline, now < d) → s.pollTimers b now = (s, b)) ∧
      (0 < config.snapshots.interval →
        (∀ d ∈ (s.pollTimers b now).1.deadlines, now < d) ∧
        (∀ d ∈ (s.pollTimers b now).1.nextDeadline, now < d) ∧
        ((s.pollTimers b now).1 = s → ∀ d ∈ s.nextDeadline, now < d)) ∧
      ∀ events : List HostEvent,
        Host.advanceSleeping ⟨s, b⟩ events = Host.advanceAll ⟨s, b⟩ events := by
  refine ⟨fun hlater => ?_, fun hinterval => ?_, Host.advanceSleeping_eq ⟨s, b⟩⟩
  · exact pollTimers_idle ((s.forall_mem_nextDeadline now).1 hlater) b
  · have hleft : ∀ d ∈ (s.pollTimers b now).1.deadlines, now < d := by
      rcases hs.spent_or_shown with hspent | ⟨-, hshown⟩
      · rw [hspent.pollTimers_eq]
        exact (s.forall_mem_nextDeadline now).1 (by simp [hspent.nextDeadline_eq])
      · rw [← hs.settings_eq] at hinterval
        exact lt_of_mem_deadlines_pollTimers hshown hinterval b now
    have hnext := ((s.pollTimers b now).1.forall_mem_nextDeadline now).2 hleft
    exact ⟨hleft, hnext, fun hsame => hsame ▸ hnext⟩

/-- A paste window of no length, a size and the idle tick are waited for.  The host polls too early,
and then much too late. -/
theorem deadlines_exact_armed :
    let config : Config := { input := { pasteWindow := 0 } }
    let h := (Host.start "b1".toList (Surface.new ⟨1, 8⟩) config {}).advanceAll
      [.call (.load 0 []), .call (.requestSize ⟨2, 8⟩ 10), .call (.paste "ab".toList 20)]
    h.session.deadlines = [60, 5000, 20] ∧ h.session.nextDeadline = some 20 ∧
      h.session.pollTimers h.backend 19 = (h.session, h.backend) ∧
      (h.session.pollTimers h.backend 7000).1.deadlines = [12000] ∧
      (h.session.pollTimers h.backend 7000).1 ≠ h.session ∧
      h.advanceSleeping [.call (.pollTimers 19), .call (.pollTimers 7000)] =
        h.perform (.pollTimers 7000) := by
  intro config h
  have hs : h.session.Reachable config := Host.reachable_advanceAll (.new _ _ _) _
  have harmed : h.session.deadlines = [60, 5000, 20] := by decide
  have hafter : (h.session.pollTimers h.backend 7000).1.deadlines = [12000] := by decide
  clear_value h
  have hnext : h.session.nextDeadline = some 20 := by rw [nextDeadline_eq_min?, harmed]; rfl
  obtain ⟨hearly, -, hsleep⟩ := deadlines_exact hs h.backend 19
  obtain ⟨-, hlate, -⟩ := deadlines_exact hs h.backend 7000
  have hidle : h.session.pollTimers h.backend 19 = (h.session, h.backend) :=
    hearly (by simp [hnext])
  have hasleep : h.perform (.pollTimers 19) = h := by
    simp only [Host.perform, Session.perform, hidle]
  refine ⟨harmed, hnext, hidle, hafter, fun hsame => ?_, ?_⟩
  · exact absurd ((hlate (by decide)).2.2 hsame 20 hnext) (by decide)
  · rw [hsleep, Host.advanceAll_cons, Host.advanceAll_cons, Host.advanceAll_nil]
    exact congrArg (Host.perform · (.pollTimers 7000)) hasleep

end Session.Reachable

end TermSession
