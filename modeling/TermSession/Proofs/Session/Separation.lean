import TermSession.Proofs.Session.Locality
import TermSession.Proofs.Session.Multiplexer

/-!
# Separation of sessions

Sessions of different ids do not notice each other, although they share a backend: what can be seen
of one id is the same in a run as in the run from which everything that another id does is left out.

* `Multiplexer.View`, `Multiplexer.view`: all that can be seen of an id;
* `MultiplexerStep.without`: what is left of a step;
* `Multiplexer.SameFor`: two states that are the same for an id; `sameFor_create`, `sameFor_call`:
  what others do; `SameFor.create`, `SameFor.call`: what sessions of the id do;
* `SameFor.step`, `SameFor.run`: two runs, one of which leaves something out;
* `Multiplexer.view_run_without`.
-/

namespace TermSession

open Backend (Alike)

variable {σ : Type}

/-- All that can be seen of an id: its sessions with all that they show and wait for, what they have
answered, what waits for their receivers, and what the backend keeps for the id. -/
structure Multiplexer.View (σ : Type := Surface) where
  sessions : List (Session σ)
  answers : List Answer
  log? : Option OutputLog
  feed : Feed
  snapshot? : Text → Option Snapshot
  fetches : List Nat
  inputs : List (List UInt8)
  inputAttempts : List (List UInt8)
  sizes : List Size
  resyncs : List Size
  resyncAttempts : List Size

/-- What is left of a step when everything that an id does is left out.  While one of its sessions
loads, other things may happen. -/
def MultiplexerStep.without (session : Text) : MultiplexerStep σ → List (MultiplexerStep σ)
  | .create id display config => if id = session then [] else [.create id display config]
  | .call id i c =>
    if id = session then (BackendChange.leaveOut session c.changes).map .change
    else [.call id i (c.without session)]
  | .change c => (BackendChange.leaveOut session [c]).map .change

/-- A session that hears, hears of its own log. -/
theorem Session.HearsUntilSpent.receiver_session {id : Text} {b : Backend} {s : Session σ}
    (h : s.HearsUntilSpent id b) : ∀ r ∈ s.receiver, r.session = s.id := by
  intro r hr
  obtain ⟨hid, hspent | ⟨receiver, queue, l⟩⟩ := h
  · rw [hspent.receiver_eq] at hr
    cases hr
  · obtain rfl : receiver = r := Option.some.inj (l.receiver_eq.symm.trans hr)
    exact l.receiver_session.trans hid.symm

namespace Multiplexer

/-- What can be seen of an id. -/
def view (m : Multiplexer σ) (id : Text) : View σ where
  sessions := m.sessions id
  answers := m.answers id
  log? := m.backend.logs.find? id
  feed := m.backend.feed id
  snapshot? := m.backend.snapshot? id
  fetches := m.backend.fetches.about id
  inputs := m.backend.inputs.about id
  inputAttempts := m.backend.inputAttempts.about id
  sizes := m.backend.sizes.about id
  resyncs := m.backend.resyncs.about id
  resyncAttempts := m.backend.resyncAttempts.about id

/-- Two states are the same for an id. -/
structure SameFor (session : Text) (m m' : Multiplexer σ) : Prop where
  sessions : m'.sessions session = m.sessions session
  answers : m'.answers session = m.answers session
  alike : Alike session m.backend m'.backend

variable {session : Text} {m m' m'' : Multiplexer σ}

namespace SameFor

theorem refl (session : Text) (m : Multiplexer σ) : SameFor session m m := ⟨rfl, rfl, .refl _ _⟩

theorem symm (h : SameFor session m m') : SameFor session m' m :=
  ⟨h.sessions.symm, h.answers.symm, h.alike.symm⟩

theorem trans (h : SameFor session m m') (h' : SameFor session m' m'') : SameFor session m m'' :=
  ⟨h'.sessions.trans h.sessions, h'.answers.trans h.answers, h.alike.trans h'.alike⟩

theorem session?_eq (h : SameFor session m m') (i : Nat) :
    m'.session? session i = m.session? session i := by
  simp only [session?, h.sessions]

theorem view_eq (h : SameFor session m m') : m'.view session = m.view session := by
  simp only [view, h.sessions, h.answers, h.alike.log?, h.alike.feed, h.alike.fetches,
    h.alike.inputs, h.alike.inputAttempts, h.alike.sizes, h.alike.resyncs, h.alike.resyncAttempts,
    funext h.alike.snapshot?]

end SameFor

variable [Display σ]

/-! ### What others do -/

theorem run_changes (m : Multiplexer σ) (changes : List BackendChange) :
    m.run (changes.map .change) = { m with backend := m.backend.undergoAll changes } := by
  induction changes generalizing m with
  | nil => rfl
  | cons change changes ih => exact ih (m.step (.change change))

theorem sameFor_create {id : Text} (hid : id ≠ session) (m : Multiplexer σ) (display : σ)
    (config : Config) : SameFor session m (m.step (.create id display config)) :=
  ⟨Function.update_of_ne hid.symm _ _, rfl,
    (Backend.isLocal_subscribe id).others session hid.symm m.backend⟩

/-- To an id, a call of another session is what happens to the backend meanwhile. -/
theorem Wired.sameFor_call (w : m.Wired) {id : Text} (hid : id ≠ session) (i : Nat)
    (c : SessionCall) :
    SameFor session { m with backend := m.backend.undergoAll c.changes }
      (m.step (.call id i c)) := by
  cases hs : m.session? id i with
  | none =>
    simp only [Multiplexer.step, hs]
    exact .refl session _
  | some s =>
    have hears := w.hears id i s hs
    have hother : session ≠ s.id := fun heq => hid (hears.1.symm.trans heq.symm)
    simp only [Multiplexer.step, hs]
    exact ⟨Function.update_of_ne hid.symm _ _, Function.update_of_ne hid.symm _ _,
      s.perform_others hears.receiver_session hother m.backend c⟩

/-! ### What sessions of the id do -/

namespace SameFor

theorem create (h : SameFor session m m') (display : σ) (config : Config) :
    SameFor session (m.step (.create session display config))
      (m'.step (.create session display config)) := by
  obtain ⟨hreceiver, hb⟩ := (Backend.isLocal_subscribe session).own _ _ h.alike
  refine ⟨?_, h.answers, hb⟩
  simp only [step, Session.new, Function.update_self, h.sessions, hreceiver]

theorem call (h : SameFor session m m') (w : m.Wired) {other : Text} (ho : other ≠ session)
    (i : Nat) (c : SessionCall) :
    SameFor session (m.step (.call session i c))
      (m'.step (.call session i (c.without other))) := by
  have hs' := h.session?_eq i
  cases hs : m.session? session i with
  | none =>
    rw [hs] at hs'
    simp only [step, hs, hs', SessionCall.changes_without]
    exact ⟨h.sessions, h.answers, h.alike.undergoAll_leaveOut ho c.changes⟩
  | some s =>
    rw [hs] at hs'
    have hears := w.hears session i s hs
    obtain ⟨hanswer, hsession, hb⟩ := s.perform_own hears.receiver_session
      (hears.1 ▸ h.alike) (hears.1 ▸ ho) c
    rw [hears.1] at hb
    simp only [step, hs, hs']
    refine ⟨?_, ?_, hb⟩
    · simp only [Function.update_self, h.sessions, hsession]
    · simp only [Function.update_self, h.answers, hanswer]

/-- One run takes a step, and the other takes what is left of it. -/
theorem step (h : SameFor session m m') (w : m.Wired) (w' : m'.Wired) {other : Text}
    (ho : other ≠ session) (step : MultiplexerStep σ) :
    SameFor session (m.step step) (m'.run (step.without other)) := by
  have hchanges (changes : List BackendChange) :
      SameFor session { m with backend := m.backend.undergoAll changes }
        { m' with backend := m'.backend.undergoAll (BackendChange.leaveOut other changes) } :=
    ⟨h.sessions, h.answers, h.alike.undergoAll_leaveOut ho changes⟩
  cases step with
  | change change =>
    rw [MultiplexerStep.without, run_changes]
    exact hchanges [change]
  | create id display config =>
    simp only [MultiplexerStep.without]
    split
    · rename_i hid
      exact (sameFor_create (hid ▸ ho) m display config).symm.trans h
    · by_cases hid : id = session
      · subst hid
        exact h.create display config
      · exact (sameFor_create hid m display config).symm.trans
          (h.trans (sameFor_create hid m' display config))
  | call id i c =>
    simp only [MultiplexerStep.without]
    split
    · rename_i hid
      rw [run_changes]
      exact (w.sameFor_call (hid ▸ ho) i c).symm.trans (hchanges c.changes)
    · by_cases hid : id = session
      · subst hid
        exact h.call w ho i c
      · have hrest := w'.sameFor_call hid i (c.without other)
        rw [SessionCall.changes_without] at hrest
        exact (w.sameFor_call hid i c).symm.trans ((hchanges c.changes).trans hrest)

theorem run (h : SameFor session m m') (w : m.Wired) (w' : m'.Wired) {other : Text}
    (ho : other ≠ session) (steps : List (MultiplexerStep σ)) :
    SameFor session (m.run steps) (m'.run (steps.flatMap (·.without other))) := by
  induction steps generalizing m m' with
  | nil => exact h
  | cons step steps ih =>
    rw [List.flatMap_cons, run_append]
    exact ih (h.step w w' ho step) (w.step step) (w'.run (step.without other))

end SameFor

/-- **Sessions of different ids are separate.**  Whatever the backend holds at first and whatever
its sessions and their logs go through, all that can be seen of an id is the same as in the run from
which everything that another id does is left out.  Ids that are registered, failures and recoveries
are about every session, and are in both runs. -/
theorem view_run_without (b : Backend) {session other : Text} (ho : other ≠ session)
    (steps : List (MultiplexerStep σ)) :
    ((start b).run (steps.flatMap (·.without other))).view session =
      ((start b).run steps).view session :=
  ((SameFor.refl session (start b)).run (wired_start b) (wired_start b) ho steps).view_eq

/-- Sessions of two ids load, type and paste in turn.  The log of one changes while the other loads,
and is restarted in between. -/
theorem view_run_without_ab :
    let a : Text := ['a']
    let b : Text := ['b']
    let steps : List MultiplexerStep :=
      [.create a (Surface.new ⟨1, 8⟩) {}, .create b (Surface.new ⟨1, 8⟩) {},
        .call b 0 (.load 0 [.append a [0x31], .append b [0x32]]),
        .call a 0 (.load 0 [.append b [0x33], .append a [0x34]]), .call b 0 (.paste ['x'] 5),
        .call a 0 (.data ['y'] 6), .change (.truncate b), .call a 0 .processEvents,
        .call b 0 .dispose, .call a 0 .flush]
    let rest : List MultiplexerStep :=
      [.create a (Surface.new ⟨1, 8⟩) {}, .change (.append a [0x31]),
        .call a 0 (.load 0 [.append a [0x34]]), .call a 0 (.data ['y'] 6),
        .call a 0 .processEvents, .call a 0 .flush]
    ((start {}).run rest).view a = ((start {}).run steps).view a ∧
      (((start {}).run steps).view a).answers =
        [.nothing, .flag true, .count 1, .flag true] ∧
      (((start {}).run steps).view a).inputs = [[0x79]] := by
  intro a b steps rest
  have hrest : steps.flatMap (·.without b) = rest := by rfl
  have hview := view_run_without {} (show b ≠ a by decide) steps
  rw [hrest] at hview
  exact ⟨hview, by decide, by decide⟩

end Multiplexer

end TermSession
