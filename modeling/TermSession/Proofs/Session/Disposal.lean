import TermSession.Proofs.Session.Calls

/-!
# The end of a session

Disposal leaves a session that no call wakes: it asks the backend for nothing, tells it nothing, and
says so.

* `Answer`, `Session.answer`: what a call gives back; `SessionCall.refusal`: what it gives back when
  it does nothing;
* `Session.IsSpent`: what is true of a session that is disposed of; `Session.spent_dispose`;
* `Session.switched`, `IsSpent.perform`: all that a call does to such a session is to set a switch;
* `IsSpent.answer_eq`, `IsSpent.nextDeadline_eq`.
-/

namespace TermSession

/-- What a call of a session gives back. -/
inductive Answer where
  | nothing
  /-- Was something done? -/
  | flag (done : Bool)
  /-- How many notifications were processed. -/
  | count (n : Nat)
  | outcome (o : Option ResizeOutcome)
  deriving DecidableEq, Repr, Inhabited

/-- What a call gives back that does nothing. -/
def SessionCall.refusal : SessionCall → Answer
  | .processEvents => .count 0
  | .fit _ => .outcome none
  | .flush | .write _ | .key _ _ | .data _ _ | .paste _ _ | .compositionEnd _ _ => .flag false
  | .load _ _ | .pollTimers _ | .requestSize _ _ | .compositionStart | .compositionUpdate _
  | .focusLost | .setFilterEnabled _ | .setMirroring _ | .dispose => .nothing

namespace Session

variable {σ : Type}

/-- What a call gives back. -/
def answer [Display σ] (s : Session σ) (b : Backend) : SessionCall → Answer
  | .processEvents => .count (s.processEvents b).1
  | .flush => .flag (s.flush b).1
  | .fit size => .outcome (s.fit size b).1
  | .write data => .flag (s.write b data).1
  | .key e now => .flag (s.key b e now).1
  | .data t now => .flag (s.data b t now).1
  | .paste t now => .flag (s.paste b t now).1
  | .compositionEnd t now => .flag (s.compositionEnd b t now).1
  | .load _ _ | .pollTimers _ | .requestSize _ _ | .compositionStart | .compositionUpdate _
  | .focusLost | .setFilterEnabled _ | .setMirroring _ | .dispose => .nothing

/-- Nothing is shown, listened to, held back, composed or waited for any more. -/
structure IsSpent (s : Session σ) : Prop where
  disposed : s.disposed = true
  surface_eq : s.surface = none
  receiver_eq : s.receiver = none
  held_eq : s.output.held = []
  composition_eq : s.composition = .idle
  nextTick_eq : s.timer.nextTick = none
  pending_eq : s.resizing.debouncer.pending = none
  pasteUntil_eq : s.pasteUntil = none

/-- Whatever the session was in the middle of. -/
theorem spent_dispose {s : Session σ} (hlive : s.disposed = false) (b : Backend) :
    (s.dispose b).1.IsSpent := by
  simp only [dispose, hlive]
  exact ⟨rfl, rfl, rfl, rfl, rfl, rfl, rfl, rfl⟩

/-- Disposal keeps the counts and what was handed to other sessions. -/
theorem dispose_keeps (s : Session σ) (b : Backend) :
    (s.dispose b).1.output.rendered = s.output.rendered ∧
      (s.dispose b).1.output.position = s.output.position ∧
      (s.dispose b).1.output.sinceSnapshot = s.output.sinceSnapshot ∧
      (s.dispose b).1.mirrored = s.mirrored := by
  unfold dispose
  split <;> exact ⟨rfl, rfl, rfl, rfl⟩

/-- What is left of a call when the session is disposed of: a switch is set, that nothing looks at
any more. -/
def switched (s : Session σ) : SessionCall → Session σ
  | .setFilterEnabled on => s.setFilterEnabled on
  | .setMirroring on => s.setMirroring on
  | _ => s

theorem switched_keeps (s : Session σ) (c : SessionCall) :
    (s.switched c).output = s.output ∧ (s.switched c).mirrored = s.mirrored := by
  cases c <;> exact ⟨rfl, rfl⟩

namespace IsSpent

variable {s : Session σ}

theorem switched (h : s.IsSpent) (c : SessionCall) : (s.switched c).IsSpent := by
  cases c with
  | setFilterEnabled | setMirroring => exact { h with }
  | _ => exact h

theorem size_eq [Display σ] (h : s.IsSpent) : s.size = none := by
  simp [Session.size, h.surface_eq]

/-- No timer is due any more. -/
theorem nextDeadline_eq (h : s.IsSpent) : s.nextDeadline = none := by
  simp [nextDeadline, Resizing.deadline, Debouncer.deadline, h.pending_eq, h.nextTick_eq,
    h.pasteUntil_eq]

variable [Display σ]

theorem pollTimers_eq (h : s.IsSpent) (b : Backend) (now : Nat) : s.pollTimers b now = (s, b) := by
  simp [Session.pollTimers, expirePaste, pollResizing, pollSnapshots, h.pasteUntil_eq, h.surface_eq]

/-- A call neither asks the backend for anything nor tells it anything, whatever the backend. -/
theorem perform (h : s.IsSpent) (b : Backend) (c : SessionCall) :
    s.perform b c = (s.switched c, b.undergoAll c.changes) := by
  have hd := h.disposed
  -- Apart from a switch, the first thing that each call looks at sends it back.
  cases c with
  | load => simp [Session.perform, load, hd, Session.switched, SessionCall.changes]
  | pollTimers now => exact h.pollTimers_eq b now
  | processEvents | flush | fit =>
    simp [Session.perform, processEvents, flush, fit, h.surface_eq, Session.switched,
      SessionCall.changes, Backend.undergoAll]
  | setFilterEnabled | setMirroring => rfl
  | _ =>
    simp [Session.perform, requestSize, write, key, Session.data, paste, compositionStart,
      compositionUpdate, compositionEnd, focusLost, dispose, hd, Session.switched,
      SessionCall.changes, Backend.undergoAll]

/-- A call says that it did nothing. -/
theorem answer_eq (h : s.IsSpent) (b : Backend) (c : SessionCall) : s.answer b c = c.refusal := by
  have hd := h.disposed
  cases c <;>
    simp [answer, SessionCall.refusal, processEvents, flush, fit, write, key, Session.data, paste,
      compositionEnd, hd, h.surface_eq]

end IsSpent

/-- A session that was not disposed of is not, but by disposal. -/
theorem perform_live [Display σ] (s : Session σ) (b : Backend) {c : SessionCall}
    (hc : c ≠ .dispose) : (s.perform b c).1.disposed = s.disposed := by
  cases ho : c.isOutput with
  | true => exact (sameInput_perform s b ho).disposed_eq
  | false => exact (sameOutput_perform s b ho hc).disposed_eq

/-- A call gives a session no receiver that it had not. -/
theorem receiver_of_perform [Display σ] {s : Session σ} {b : Backend} {c : SessionCall}
    {r : Receiver} (hr : (s.perform b c).1.receiver = some r) : s.receiver = some r := by
  cases ho : c.isOutput with
  | true => exact (sameInput_perform s b ho).receiver_eq ▸ hr
  | false =>
    by_cases hc : c = .dispose
    · subst hc
      simp only [perform, dispose] at hr
      split at hr
      · exact hr
      · cases hr
    · exact (sameOutput_perform s b ho hc).receiver_eq ▸ hr

end Session

end TermSession
