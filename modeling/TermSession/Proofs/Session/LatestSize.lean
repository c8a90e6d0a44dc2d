import TermSession.Proofs.Session.Sizes

/-!
# Which size wins

A size may be asked for, to be applied after a while, or be applied at once.  The latest size wins,
with one exception: a size applied at once does not drop one that waits, which is still applied when
it is due.

* `HostEvent.asked?`: the size that an event is about;
* `Host.overtaken`: the request that waited when the latest size was applied at once;
* `Host.target?`: the size that a session is on the way to; `Host.Heads`;
* `Host.latest_size`: the size once nothing waits any more.
-/

namespace TermSession

/-- The size that an event asks for or applies at once. -/
def HostEvent.asked? : HostEvent → Option Size
  | .call (.requestSize z _) => some z
  | .call (.fit z) => some z
  | _ => none

namespace Host

/-- The size asked for that waits. -/
def waiting? (h : Host) : Option Size := h.session.resizing.debouncer.pending.map Pending.value

/-- The size that waited when the latest of all sizes was applied at once; `last` is the one from
before the run. -/
def overtaken (last : Option Size) (h : Host) : List HostEvent → Option Size
  | [] => last
  | e :: events =>
    let last := match e with
      | .call (.requestSize _ _) => none
      | .call (.fit _) => h.waiting?
      | _ => last
    overtaken last (h.advance e) events

/-- The size that the session is on the way to. -/
def target? (h : Host) : Option Size := h.waiting?.or h.size

/-- A live session is on the way to the size `goal`, and has rows and columns on the way. -/
structure Heads (goal : Size) (h : Host) : Prop where
  live : h.session.disposed = false
  shown : h.size.isSome
  proper : h.Proper
  positive : ∀ z ∈ h.waiting?, z.isPositive = true
  target : h.target? = some goal

namespace Heads

variable {goal : Size} {h h' : Host}

theorem steady (a : h.Heads goal) (s : h.Steady h') : h'.Heads goal where
  live := s.disposed_eq.trans a.live
  shown := by rw [s.size_eq]; exact a.shown
  proper := s.proper a.proper
  positive := by
    rw [waiting?, s.resizing_eq]
    exact a.positive
  target := by
    rw [target?, waiting?, s.resizing_eq, s.size_eq]
    exact a.target

theorem exists_surface (a : h.Heads goal) : ∃ live, h.session.surface = some live := by
  have hshown := a.shown
  rw [size, Session.size, Option.isSome_map] at hshown
  exact Option.isSome_iff_exists.1 hshown

/-- A request replaces what was waited for. -/
theorem requestSize (a : h.Heads goal) {z : Size} (hz : z.isPositive = true) (now : Nat) :
    (h.perform (.requestSize z now)).Heads z := by
  rw [perform_requestSize a.live]
  refine ⟨a.live, a.shown, a.proper, ?_, rfl⟩
  intro z' hz'
  cases hz'
  exact hz

/-- A size that is applied at once is where the session stays, unless a request waits. -/
theorem fit (a : h.Heads goal) {z : Size} (hz : z.isPositive = true) :
    (h.perform (.fit z)).Heads (h.waiting?.getD z) := by
  obtain ⟨live, hs⟩ := a.exists_surface
  have t := takes_fit hs hz
  have hwaiting : (h.perform (.fit z)).waiting? = h.waiting? := by
    rw [waiting?, debouncer_fit]
    rfl
  constructor
  · exact (h.session.resized_fit z h.backend).disposed_eq.trans a.live
  · rw [t.size]
    rfl
  · exact t.proper
  · rw [hwaiting]
    exact a.positive
  · rw [target?, hwaiting, t.size]
    cases h.waiting? <;> rfl

/-- A poll takes the session to the size that is due. -/
theorem pollTimers_of_due (a : h.Heads goal) {p : Pending Size}
    (hp : h.session.resizing.debouncer.pending = some p) {now : Nat} (hdue : p.due ≤ now) :
    (h.perform (.pollTimers now)).Heads goal ∧ (h.perform (.pollTimers now)).waiting? = none := by
  obtain ⟨live, hs⟩ := a.exists_surface
  obtain ⟨h₁, hbefore, hs₁, hafter⟩ := exists_steady_fit hs hp hdue
  have hwaits : h.waiting? = some p.value := congrArg (Option.map Pending.value) hp
  obtain rfl : p.value = goal := by
    have htarget := a.target
    rw [target?, hwaits] at htarget
    exact Option.some.inj htarget
  have t : h₁.cancelled.Takes p.value (h₁.cancelled.perform (.fit p.value)) :=
    takes_fit (h := h₁.cancelled) hs₁ (a.positive _ hwaits)
  have hnone : (h₁.cancelled.perform (.fit p.value)).waiting? = none := by
    rw [waiting?, debouncer_fit]
    rfl
  have hfit : (h₁.cancelled.perform (.fit p.value)).Heads p.value := by
    constructor
    · have hlive : h₁.cancelled.session.disposed = false := hbefore.disposed_eq.trans a.live
      exact (h₁.cancelled.session.resized_fit _ h₁.cancelled.backend).disposed_eq.trans hlive
    · rw [t.size]
      rfl
    · exact t.proper
    · rw [hnone]
      rintro z ⟨⟩
    · rw [target?, hnone, t.size]
      rfl
  refine ⟨hfit.steady hafter, ?_⟩
  rw [waiting?, hafter.resizing_eq]
  exact hnone

/-- A poll does not change where the session is going. -/
theorem pollTimers (a : h.Heads goal) (now : Nat) : (h.perform (.pollTimers now)).Heads goal := by
  by_cases hidle : ∀ p ∈ h.session.resizing.debouncer.pending, now < p.due
  · exact a.steady (steady_pollTimers hidle)
  · obtain ⟨p, hp, hdue⟩ : ∃ p, h.session.resizing.debouncer.pending = some p ∧ p.due ≤ now := by
      simpa using hidle
    exact (a.pollTimers_of_due hp hdue).1

/-- When nothing waits, the session has arrived. -/
theorem size_eq (a : h.Heads goal) (hnone : h.waiting? = none) : h.size = some goal := by
  have htarget := a.target
  rwa [target?, hnone, Option.none_or] at htarget

/-- A poll at which everything is due takes the session where it is going. -/
theorem size_pollTimers (a : h.Heads goal) {now : Nat}
    (hdue : ∀ p ∈ h.session.resizing.debouncer.pending, p.due ≤ now) :
    (h.perform (.pollTimers now)).size = some goal := by
  cases hp : h.session.resizing.debouncer.pending with
  | none =>
    have hsteady : h.Steady (h.perform (.pollTimers now)) := by
      refine steady_pollTimers ?_
      rw [hp]
      rintro p ⟨⟩
    have hnone : h.waiting? = none := congrArg (Option.map Pending.value) hp
    rw [hsteady.size_eq]
    exact a.size_eq hnone
  | some p =>
    obtain ⟨a', hnone⟩ := a.pollTimers_of_due hp (hdue p hp)
    exact a'.size_eq hnone

/-- One event of a run. -/
theorem advance {latest : Size} {last : Option Size} (a : h.Heads (last.getD latest))
    {e : HostEvent} (he : e ≠ .call .dispose) (hz : ∀ z ∈ e.asked?, z.isPositive = true) :
    (h.advance e).Heads ((h.overtaken last [e]).getD (e.asked?.getD latest)) := by
  cases hsizing : e.isSizing with
  | false =>
    have hnone : e.asked? = none ∧ h.overtaken last [e] = last := by
      cases e with
      | backend change => exact ⟨rfl, rfl⟩
      | call c => cases c <;> first | exact ⟨rfl, rfl⟩ | cases hsizing
    rw [hnone.1, hnone.2]
    exact a.steady (steady_advance a.proper hsizing)
  | true =>
    cases e with
    | backend change => cases hsizing
    | call c =>
      cases c with
      | requestSize z now => exact a.requestSize (hz z rfl) now
      | fit z => exact a.fit (hz z rfl)
      | pollTimers now => exact a.pollTimers now
      | dispose => exact absurd rfl he
      | _ => cases hsizing

theorem advanceAll {latest : Size} {last : Option Size} (a : h.Heads (last.getD latest))
    {events : List HostEvent} (he : ∀ e ∈ events, e ≠ .call .dispose)
    (hz : ∀ e ∈ events, ∀ z ∈ e.asked?, z.isPositive = true) :
    (h.advanceAll events).Heads
      ((h.overtaken last events).getD
        ((events.filterMap HostEvent.asked?).getLast?.getD latest)) := by
  induction events generalizing h latest last with
  | nil => exact a
  | cons e events ih =>
    have hlatest : ((e :: events).filterMap HostEvent.asked?).getLast?.getD latest =
        (events.filterMap HostEvent.asked?).getLast?.getD (e.asked?.getD latest) := by
      cases hasked : e.asked? with
      | none => rw [List.filterMap_cons_none hasked, Option.getD_none]
      | some z =>
        rw [List.filterMap_cons_some hasked, List.getLast?_cons, Option.getD_some, Option.getD_some]
    rw [hlatest]
    exact ih (a.advance (he e List.mem_cons_self) (hz e List.mem_cons_self))
      (fun e h => he e (List.mem_cons_of_mem _ h)) (fun e h => hz e (List.mem_cons_of_mem _ h))

end Heads

/-- The latest size wins: when nothing waits any more, as after a poll at which everything is due,
the surface has the size that was asked for or applied last, unless that was applied at once while
another waited; then it has the other one.  As long as nothing was asked for, it has its first
size. -/
theorem latest_size (id : Text) (size : Size) (calls : List DisplayCall) (config : Config)
    (b : Backend) {events : List HostEvent} (he : ∀ e ∈ events, e ≠ .call .dispose)
    (hz : ∀ e ∈ events, ∀ z ∈ e.asked?, z.isPositive = true) :
    let surface := Display.performAll (Surface.new size) calls
    let first := start id surface config b
    let h := first.advanceAll events
    let goal := (first.overtaken none events).getD
      ((events.filterMap HostEvent.asked?).getLast?.getD surface.size)
    (h.waiting? = none → h.size = some goal) ∧
      ∀ now, (∀ p ∈ h.session.resizing.debouncer.pending, p.due ≤ now) →
        (h.perform (.pollTimers now)).size = some goal := by
  intro surface first h goal
  have hstart : first.Heads ((none : Option Size).getD surface.size) :=
    { live := rfl
      shown := rfl
      proper := proper_start id size calls config b
      positive := by rintro z ⟨⟩
      target := rfl }
  have hheads : h.Heads goal := hstart.advanceAll he hz
  constructor
  · exact hheads.size_eq
  · intro now
    exact hheads.size_pollTimers

/-- A size that is asked for while the one before waits replaces it. -/
theorem latest_size_burst :
    let first := start "b1".toList (Surface.new ⟨1, 8⟩) {} {}
    let h := first.advanceAll
      [.call (.requestSize ⟨2, 8⟩ 0), .call (.fit ⟨4, 8⟩), .call (.requestSize ⟨3, 8⟩ 10)]
    (h.perform (.pollTimers 60)).size = some ⟨3, 8⟩ := by
  have hlatest := @latest_size "b1".toList ⟨1, 8⟩ [] {} {}
    [.call (.requestSize ⟨2, 8⟩ 0), .call (.fit ⟨4, 8⟩), .call (.requestSize ⟨3, 8⟩ 10)]
    (by simp) (by simp [HostEvent.asked?, Size.isPositive])
  exact hlatest.2 60 (by rintro p ⟨⟩; decide)

/-- A size that is applied at once while another waits is lost. -/
theorem latest_size_overtaken :
    let first := start "b1".toList (Surface.new ⟨1, 8⟩) {} {}
    let h := first.advanceAll [.call (.requestSize ⟨2, 8⟩ 0), .call (.fit ⟨3, 8⟩)]
    (h.perform (.pollTimers 50)).size = some ⟨2, 8⟩ := by
  rfl

end Host

end TermSession
