import Mathlib.Data.List.Chain
import TermSession.Proofs.Session.Sizes

/-!
# Backend and surface agree on the size

The last size that the backend of a session has heard of is the size of the surface, whatever was
asked for in between.  A size without rows or columns is never applied; asking for one comes to the
same as taking back what was asked for before.

* `Host.SizesAlike`: two hosts are alike as far as sizes go; `SizesAlike.advanceAll`;
* `Host.Agrees`: what the backend and the surface know of sizes;
* `Host.sizes_agree`; `Host.size_displaced`: a request that is lost.
-/

namespace TermSession

namespace Host

/-! ### Hosts that are alike in their sizes -/

/-- What was asked for that has rows and columns and is still to come. -/
def awaited? (h : Host) : Option (Pending Size) :=
  h.session.resizing.debouncer.pending.filter fun p => p.value.isPositive

/-- As far as sizes go, the two hosts have come to the same and await the same.  One of them may
wait for a size without rows or columns. -/
structure SizesAlike (h h' : Host) : Prop where
  id_eq : h'.session.id = h.session.id
  disposed_eq : h'.session.disposed = h.session.disposed
  hasResized_eq : h'.session.resizing.hasResized = h.session.resizing.hasResized
  delay_eq : h'.session.resizing.debouncer.delay = h.session.resizing.debouncer.delay
  awaited_eq : h'.awaited? = h.awaited?
  size_eq : h'.size = h.size
  sizes_eq : h'.backend.sizes.toList = h.backend.sizes.toList
  resyncAttempts_eq : h'.backend.resyncAttempts.toList = h.backend.resyncAttempts.toList

theorem Steady.alike {h h' : Host} (a : h.Steady h') : h.SizesAlike h' where
  id_eq := a.id_eq
  disposed_eq := a.disposed_eq
  hasResized_eq := by rw [a.resizing_eq]
  delay_eq := by rw [a.resizing_eq]
  awaited_eq := by rw [awaited?, a.resizing_eq, awaited?]
  size_eq := a.size_eq
  sizes_eq := by rw [a.backend.sizes]
  resyncAttempts_eq := by rw [a.backend.resyncAttempts]

theorem pending_of_awaited? {h : Host} {p : Pending Size} (hp : h.awaited? = some p) :
    h.session.resizing.debouncer.pending = some p :=
  (Option.filter_eq_some_iff.1 hp).1

/-- What has no rows or no columns is not awaited. -/
theorem awaited?_eq_none {h : Host} {p : Pending Size}
    (hp : h.session.resizing.debouncer.pending = some p) (hz : p.value.isPositive = false) :
    h.awaited? = none := by
  rw [awaited?, hp]
  simp [Option.filter, hz]

/-- Dropping what comes to nothing makes no difference. -/
theorem alike_cancelled {h : Host} (hnone : h.awaited? = none) : h.SizesAlike h.cancelled :=
  ⟨rfl, rfl, rfl, rfl, hnone.symm, rfl, rfl, rfl⟩

/-- A request for a size without rows or columns takes back what was asked for before. -/
theorem alike_requestSize {h : Host} (hlive : h.session.disposed = false) {z : Size}
    (hz : z.isPositive = false) (now : Nat) :
    h.cancelled.SizesAlike (h.perform (.requestSize z now)) := by
  rw [perform_requestSize hlive]
  exact ⟨rfl, rfl, rfl, rfl, awaited?_eq_none rfl hz, rfl, rfl, rfl⟩

/-- A session that ends drops what was asked for and releases the surface. -/
theorem dispose_of_live {h : Host} (hlive : h.session.disposed = false) :
    (h.perform .dispose).session.id = h.session.id ∧
      (h.perform .dispose).session.disposed = true ∧
      (h.perform .dispose).session.resizing = h.session.resizing.cancel ∧
      (h.perform .dispose).size = none ∧ h.backend.SameSizes (h.perform .dispose).backend := by
  have hperform : h.perform .dispose =
      ⟨(h.session.dispose h.backend).1, (h.session.dispose h.backend).2⟩ := rfl
  rw [hperform, Session.dispose, if_neg (by simp [hlive])]
  refine ⟨rfl, rfl, rfl, rfl, ?_⟩
  dsimp only
  split <;> exact ⟨rfl, rfl⟩

namespace SizesAlike

variable {h h' h'' : Host}

theorem symm (a : h.SizesAlike h') : h'.SizesAlike h :=
  ⟨a.id_eq.symm, a.disposed_eq.symm, a.hasResized_eq.symm, a.delay_eq.symm, a.awaited_eq.symm,
    a.size_eq.symm, a.sizes_eq.symm, a.resyncAttempts_eq.symm⟩

theorem trans (a : h.SizesAlike h') (a' : h'.SizesAlike h'') : h.SizesAlike h'' where
  id_eq := a'.id_eq.trans a.id_eq
  disposed_eq := a'.disposed_eq.trans a.disposed_eq
  hasResized_eq := a'.hasResized_eq.trans a.hasResized_eq
  delay_eq := a'.delay_eq.trans a.delay_eq
  awaited_eq := a'.awaited_eq.trans a.awaited_eq
  size_eq := a'.size_eq.trans a.size_eq
  sizes_eq := a'.sizes_eq.trans a.sizes_eq
  resyncAttempts_eq := a'.resyncAttempts_eq.trans a.resyncAttempts_eq

/-- If neither host gets anywhere, both stay alike. -/
theorem of_both {k k' : Host} (a : h.SizesAlike h') (hk : h.SizesAlike k) (hk' : h'.SizesAlike k') :
    k.SizesAlike k' := (hk.symm.trans a).trans hk'

theorem proper (a : h.SizesAlike h') (hp : h.Proper) : h'.Proper := by
  intro z hz
  rw [a.size_eq] at hz
  exact hp z hz

theorem surface_eq_none (a : h.SizesAlike h') (hs : h.session.surface = none) :
    h'.session.surface = none := by
  have hsize := a.size_eq.trans (size_eq_none hs)
  exact Option.map_eq_none_iff.1 hsize

theorem exists_surface (a : h.SizesAlike h') {live : Surface} (hs : h.session.surface = some live) :
    ∃ live', h'.session.surface = some live' := by
  have hsize := a.size_eq.trans (size_eq_of_surface hs)
  obtain ⟨live', hs', -⟩ := Option.map_eq_some_iff.1 hsize
  exact ⟨live', hs'⟩

theorem cancelled (a : h.SizesAlike h') : h.cancelled.SizesAlike h'.cancelled :=
  ⟨a.id_eq, a.disposed_eq, a.hasResized_eq, a.delay_eq, rfl, a.size_eq, a.sizes_eq,
    a.resyncAttempts_eq⟩

theorem requestSize (a : h.SizesAlike h') (z : Size) (now : Nat) :
    (h.perform (.requestSize z now)).SizesAlike (h'.perform (.requestSize z now)) := by
  have hdisposed := a.disposed_eq
  cases hd : h.session.disposed with
  | true =>
    rw [hd] at hdisposed
    simpa [perform, Session.perform, Session.requestSize, hd, hdisposed] using a
  | false =>
    rw [hd] at hdisposed
    rw [perform_requestSize hd, perform_requestSize hdisposed]
    refine ⟨a.id_eq, a.disposed_eq, a.hasResized_eq, a.delay_eq, ?_, a.size_eq, a.sizes_eq,
      a.resyncAttempts_eq⟩
    simp only [awaited?, Resizing.request, Debouncer.push, a.delay_eq]

theorem dispose (a : h.SizesAlike h') :
    (h.perform .dispose).SizesAlike (h'.perform .dispose) := by
  have hdisposed := a.disposed_eq
  cases hd : h.session.disposed with
  | true =>
    rw [hd] at hdisposed
    simpa [perform, Session.perform, Session.dispose, hd, hdisposed] using a
  | false =>
    rw [hd] at hdisposed
    obtain ⟨hid, hgone, hresizing, hsize, hbackend⟩ := dispose_of_live hd
    obtain ⟨hid', hgone', hresizing', hsize', hbackend'⟩ := dispose_of_live hdisposed
    constructor
    · rw [hid', a.id_eq, hid]
    · rw [hgone', hgone]
    · rw [hresizing', hresizing]
      exact a.hasResized_eq
    · rw [hresizing', hresizing]
      exact a.delay_eq
    · rw [awaited?, hresizing', awaited?, hresizing]
      rfl
    · rw [hsize', hsize]
    · rw [hbackend'.sizes, a.sizes_eq, hbackend.sizes]
    · rw [hbackend'.resyncAttempts, a.resyncAttempts_eq, hbackend.resyncAttempts]

theorem fit (a : h.SizesAlike h') (z : Size) :
    (h.perform (.fit z)).SizesAlike (h'.perform (.fit z)) := by
  cases hz : z.isPositive with
  | false =>
    rw [fit_of_not_isPositive h hz, fit_of_not_isPositive h' hz]
    exact a
  | true =>
    cases hs : h.session.surface with
    | none =>
      rw [fit_released hs, fit_released (a.surface_eq_none hs)]
      exact a
    | some live =>
      obtain ⟨live', hs'⟩ := a.exists_surface hs
      have t := takes_fit hs hz
      have t' := takes_fit hs' hz
      have hdisposed := (h.session.resized_fit z h.backend).disposed_eq
      have hdisposed' := (h'.session.resized_fit z h'.backend).disposed_eq
      constructor
      · rw [t'.id_eq, a.id_eq, t.id_eq]
      · exact hdisposed'.trans (a.disposed_eq.trans hdisposed.symm)
      · rw [t'.hasResized, t.hasResized]
      · rw [debouncer_fit, debouncer_fit, a.delay_eq]
      · rw [awaited?, awaited?, debouncer_fit, debouncer_fit]
        exact a.awaited_eq
      · rw [t'.size, t.size]
      · rw [t'.sizes, t.sizes, a.sizes_eq, a.size_eq, a.id_eq]
      · rw [t'.resyncAttempts, t.resyncAttempts, a.resyncAttempts_eq, a.hasResized_eq, a.id_eq]

end SizesAlike

/-- A poll at which nothing with rows and columns is due comes to nothing. -/
theorem alike_pollTimers {h : Host} {now : Nat} (hidle : ∀ p ∈ h.awaited?, now < p.due) :
    h.SizesAlike (h.perform (.pollTimers now)) := by
  cases hs : h.session.surface with
  | none => exact (steady_pollTimers_released hs now).alike
  | some live =>
    by_cases hwaits : ∀ p ∈ h.session.resizing.debouncer.pending, now < p.due
    · exact (steady_pollTimers hwaits).alike
    · obtain ⟨p, hp, hdue⟩ : ∃ p, h.session.resizing.debouncer.pending = some p ∧ p.due ≤ now := by
        simpa using hwaits
      obtain ⟨h₁, hbefore, -, hafter⟩ := exists_steady_fit hs hp hdue
      cases hz : p.value.isPositive with
      | true =>
        have hawaited : h.awaited? = some p := Option.filter_eq_some_iff.2 ⟨hp, hz⟩
        exact absurd (hidle p hawaited) (Nat.not_lt.2 hdue)
      | false =>
        have hnone : h₁.awaited? = none := by
          rw [hbefore.alike.awaited_eq, awaited?_eq_none hp hz]
        rw [fit_of_not_isPositive h₁.cancelled hz] at hafter
        exact (hbefore.alike.trans (alike_cancelled hnone)).trans hafter.alike

namespace SizesAlike

variable {h h' : Host}

theorem pollTimers (a : h.SizesAlike h') (now : Nat) :
    (h.perform (.pollTimers now)).SizesAlike (h'.perform (.pollTimers now)) := by
  by_cases hidle : ∀ p ∈ h.awaited?, now < p.due
  · have hidle' : ∀ p ∈ h'.awaited?, now < p.due := by
      rw [a.awaited_eq]
      exact hidle
    exact a.of_both (alike_pollTimers hidle) (alike_pollTimers hidle')
  · obtain ⟨p, hp, hdue⟩ : ∃ p, h.awaited? = some p ∧ p.due ≤ now := by
      simpa using hidle
    have hp' := a.awaited_eq.trans hp
    cases hs : h.session.surface with
    | none =>
      exact a.of_both (steady_pollTimers_released hs now).alike
        (steady_pollTimers_released (a.surface_eq_none hs) now).alike
    | some live =>
      obtain ⟨live', hs'⟩ := a.exists_surface hs
      -- Both hosts apply the size that is due, between steps that have to do with no size.
      obtain ⟨h₁, hbefore, -, hafter⟩ := exists_steady_fit hs (pending_of_awaited? hp) hdue
      obtain ⟨h₁', hbefore', -, hafter'⟩ := exists_steady_fit hs' (pending_of_awaited? hp') hdue
      have hstart : h₁.SizesAlike h₁' := a.of_both hbefore.alike hbefore'.alike
      exact (hstart.cancelled.fit p.value).of_both hafter.alike hafter'.alike

theorem advance (a : h.SizesAlike h') (hp : h.Proper) (e : HostEvent) :
    (h.advance e).SizesAlike (h'.advance e) := by
  cases he : e.isSizing with
  | false => exact a.of_both (steady_advance hp he).alike (steady_advance (a.proper hp) he).alike
  | true =>
    cases e with
    | backend change => cases he
    | call c =>
      cases c with
      | requestSize z now => exact a.requestSize z now
      | fit z => exact a.fit z
      | pollTimers now => exact a.pollTimers now
      | dispose => exact a.dispose
      | _ => cases he

theorem advanceAll (a : h.SizesAlike h') (hp : h.Proper) (events : List HostEvent) :
    (h.advanceAll events).SizesAlike (h'.advanceAll events) := by
  induction events generalizing h h' with
  | nil => exact a
  | cons e events ih => exact ih (a.advance hp e) (hp.advance e)

end SizesAlike

/-! ### What is agreed on -/

/-- What the backend and the surface know of the sizes of a session that started at the size `z₀`
over the backend `b`: `sent` are those that the backend has heard of, `applied` those that were
applied. -/
structure Agrees (id : Text) (z₀ : Size) (b : Backend) (sent applied : List Size) (h : Host) :
    Prop where
  id_eq : h.session.id = id
  sizes : h.backend.sizes.toList = b.sizes.toList ++ sent.map (id, ·)
  resyncAttempts : h.backend.resyncAttempts.toList =
    b.resyncAttempts.toList ++ applied.head?.toList.map (id, ·)
  hasResized : h.session.resizing.hasResized = !applied.isEmpty
  distinct : (z₀ :: sent).IsChain (· ≠ ·)
  last : sent.getLast?.getD z₀ = applied.getLast?.getD z₀
  size : ∀ z ∈ h.size, z = applied.getLast?.getD z₀
  proper : h.Proper

namespace Agrees

variable {id : Text} {z₀ : Size} {b : Backend} {sent applied : List Size} {h h' : Host}

theorem unsized (a : Agrees id z₀ b sent applied h) (u : h.Unsized h') :
    Agrees id z₀ b sent applied h' where
  id_eq := u.id_eq.trans a.id_eq
  sizes := by rw [u.backend.sizes, a.sizes]
  resyncAttempts := by rw [u.backend.resyncAttempts, a.resyncAttempts]
  hasResized := u.hasResized_eq.trans a.hasResized
  distinct := a.distinct
  last := a.last
  size z hz := a.size z (u.mem_size hz)
  proper z hz := a.proper z (u.mem_size hz)

/-- A size that is applied is told if it differs from the one before. -/
theorem takes (a : Agrees id z₀ b sent applied h) {z : Size} (t : h.Takes z h') :
    ∃ sent', Agrees id z₀ b (sent ++ sent') (applied ++ [z]) h' := by
  obtain ⟨old, hold⟩ := Option.isSome_iff_exists.1 t.live
  have hcurrent : sent.getLast?.getD z₀ = old := a.last.trans (a.size old hold).symm
  have hresyncs : h'.backend.resyncAttempts.toList =
      b.resyncAttempts.toList ++ (applied ++ [z]).head?.toList.map (id, ·) := by
    rw [t.resyncAttempts, a.resyncAttempts, a.hasResized, a.id_eq]
    cases applied with
    | nil => simp
    | cons z₁ applied => simp
  have hresized : h'.session.resizing.hasResized = !(applied ++ [z]).isEmpty := by
    rw [t.hasResized]
    simp
  have hsize : ∀ z' ∈ h'.size, z' = (applied ++ [z]).getLast?.getD z₀ := by
    intro z' hz'
    rw [t.size] at hz'
    cases hz'
    simp
  have hsizes := t.sizes
  rw [a.sizes, a.id_eq, hold] at hsizes
  by_cases heq : old = z
  · rw [heq, if_pos rfl, List.append_nil] at hsizes
    refine ⟨[], t.id_eq.trans a.id_eq, ?_, hresyncs, hresized, ?_, ?_, hsize, t.proper⟩
    · rw [List.append_nil, hsizes]
    · rw [List.append_nil]
      exact a.distinct
    · rw [List.append_nil, hcurrent, heq]
      simp
  · have hne : ¬ some old = some z := fun hsome => heq (Option.some.inj hsome)
    rw [if_neg hne] at hsizes
    refine ⟨[z], t.id_eq.trans a.id_eq, ?_, hresyncs, hresized, ?_, ?_, hsize, t.proper⟩
    · rw [hsizes, List.map_append, List.append_assoc]
      rfl
    · rw [← List.cons_append, List.isChain_append]
      refine ⟨a.distinct, List.isChain_singleton z, ?_⟩
      intro x hx y hy
      rw [List.getLast?_cons, hcurrent] at hx
      cases hx
      cases hy
      exact heq
    · simp

theorem advance (a : Agrees id z₀ b sent applied h) (e : HostEvent) :
    ∃ sent', Agrees id z₀ b (sent ++ sent') (applied ++ (h.applied? e).toList) (h.advance e) := by
  rcases advance_sizes a.proper e with ⟨hnone, u⟩ | ⟨z, hz, t⟩
  · refine ⟨[], ?_⟩
    rw [hnone, Option.toList_none, List.append_nil, List.append_nil]
    exact a.unsized u
  · rw [hz]
    exact a.takes t

theorem advanceAll (a : Agrees id z₀ b sent applied h) (events : List HostEvent) :
    ∃ sent', Agrees id z₀ b (sent ++ sent') (applied ++ h.applied events)
      (h.advanceAll events) := by
  induction events generalizing sent applied h with
  | nil =>
    refine ⟨[], ?_⟩
    rw [Host.applied, List.append_nil, List.append_nil]
    exact a
  | cons e events ih =>
    obtain ⟨sent₁, a₁⟩ := a.advance e
    obtain ⟨sent₂, a₂⟩ := ih a₁
    refine ⟨sent₁ ++ sent₂, ?_⟩
    rw [Host.applied, ← List.append_assoc, ← List.append_assoc]
    exact a₂

end Agrees

/-- What the backend of a session hears of sizes, in any run: each size that the surface takes and
no size twice in a row, so that the last of them is the size of the surface.  The first size that is
applied brings the controller up to date, whether or not that fails, and no other does.  A size
without rows or columns neither changes the surface nor reaches the backend, whether it is to be
applied at once or after the delay.  But asking for one takes the place of what was asked for
before: for all sizes to come it is as if that had been taken back. -/
theorem sizes_agree (id : Text) (size : Size) (calls : List DisplayCall) (config : Config)
    (b : Backend) (events : List HostEvent) :
    let surface := Display.performAll (Surface.new size) calls
    let first := start id surface config b
    let h := first.advanceAll events
    ∃ sent : List Size,
      h.backend.sizes.toList = b.sizes.toList ++ sent.map (id, ·) ∧
      (surface.size :: sent).IsChain (· ≠ ·) ∧
      (∀ live ∈ h.session.surface, live.size = sent.getLast?.getD surface.size ∧
        live.size = (first.applied events).getLast?.getD surface.size) ∧
      h.backend.resyncAttempts.toList =
        b.resyncAttempts.toList ++ (first.applied events).head?.toList.map (id, ·) ∧
      (∀ e, (h.advance e).backend.resyncAttempts.toList =
          h.backend.resyncAttempts.toList ++
            (if first.applied events = [] then (h.applied? e).toList.map (id, ·) else []) ∧
        ∀ z ∈ h.applied? e, (h.advance e).size = some z) ∧
      ∀ z : Size, z.isPositive = false →
        h.perform (.fit z) = h ∧
        ∀ now,
          let asked := h.perform (.requestSize z now)
          asked.backend = h.backend ∧ asked.session.surface = h.session.surface ∧
          (∀ p, h.session.resizing.debouncer.pending = some p → p.value = z →
            h.SizesAlike (h.perform (.pollTimers now))) ∧
          (h.session.disposed = false →
            asked.session.resizing.debouncer.pending =
              some ⟨z, now + h.session.resizing.debouncer.delay⟩ ∧
            ∀ after, (h.cancelled.advanceAll after).SizesAlike (asked.advanceAll after)) := by
  intro surface first h
  have hstart : Agrees id surface.size b [] [] first := by
    refine ⟨rfl, ?_, ?_, rfl, List.isChain_singleton _, rfl, ?_,
      proper_start id size calls config b⟩
    · exact (List.append_nil _).symm
    · exact (List.append_nil _).symm
    · intro z hz
      cases hz
      rfl
  obtain ⟨sent, hagrees⟩ := hstart.advanceAll events
  have a : Agrees id surface.size b sent (first.applied events) h := hagrees
  refine ⟨sent, a.sizes, a.distinct, ?_, a.resyncAttempts, ?_, ?_⟩
  · intro live hlive
    have hsize := a.size live.size (size_eq_of_surface hlive)
    exact ⟨hsize.trans a.last.symm, hsize⟩
  · intro e
    rcases advance_sizes a.proper e with ⟨hnone, u⟩ | ⟨z, hz, t⟩
    · rw [hnone, u.backend.resyncAttempts]
      exact ⟨by split <;> simp, fun z hz => by cases hz⟩
    · have hresized := a.hasResized
      rw [hz, t.resyncAttempts, hresized, a.id_eq]
      constructor
      · cases first.applied events <;> rfl
      · intro z' hz'
        cases hz'
        exact t.size
  · intro z hz
    refine ⟨h.fit_of_not_isPositive hz, fun now => ⟨rfl, ?_, ?_, fun hd => ?_⟩⟩
    · show (h.session.requestSize z now).surface = h.session.surface
      unfold Session.requestSize
      split <;> rfl
    · rintro p hp rfl
      refine alike_pollTimers ?_
      rw [awaited?_eq_none hp hz]
      rintro p ⟨⟩
    · refine ⟨?_, (alike_requestSize hd hz now).advanceAll a.proper⟩
      rw [perform_requestSize hd]
      rfl

/-- A size that was asked for is lost when another one is asked for that has no rows and no columns:
the surface keeps its size, and the backend hears nothing. -/
theorem size_displaced :
    let first := start "b1".toList (Surface.new ⟨1, 8⟩) {} {}
    let waits := first.perform (.requestSize ⟨2, 8⟩ 0)
    let asked := waits.perform (.requestSize ⟨0, 0⟩ 10)
    ((waits.perform (.pollTimers 50)).size = some ⟨2, 8⟩ ∧
        (waits.perform (.pollTimers 50)).backend.sizes.toList = [("b1".toList, ⟨2, 8⟩)]) ∧
      (∀ now ∈ [50, 60], (asked.perform (.pollTimers now)).size = some ⟨1, 8⟩ ∧
        (asked.perform (.pollTimers now)).backend.sizes.toList = []) ∧
      (asked.perform (.pollTimers 60)).session.resizing.debouncer.pending = none := by
  refine ⟨⟨rfl, rfl⟩, ?_, rfl⟩
  intro now hnow
  rcases List.mem_pair.1 hnow with rfl | rfl
  · exact ⟨rfl, rfl⟩
  · exact ⟨rfl, rfl⟩

end Host

end TermSession
