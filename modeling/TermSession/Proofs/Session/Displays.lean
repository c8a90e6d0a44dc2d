import TermSession.Proofs.Session.Calls
import TermSession.Proofs.Session.Shown

/-!
# What a session does to its display

Whatever happens and whatever fails, all that a session does to its display is to write to it, to
clear it and to resize it, until it releases it.  Calls that are about neither notifications nor the
history only resize it.

* `Session.Resized`: what such a call leaves as it is; `Session.resized_perform`;
* `Session.steady_perform`: the display is as it was if no size is asked for;
* `Session.exists_calls_perform`, `Host.exists_calls_advanceAll`: any call, any run.
-/

namespace TermSession

open Display

variable {σ : Type} [Display σ]

/-! ### Renderings -/

namespace Rendering

theorem exists_calls_handle (r : Rendering σ) (e : LogEvent) :
    ∃ calls, (r.handle e).1.surface = performAll r.surface calls := by
  cases e with
  | truncate offset => exact ⟨[.clear], rfl⟩
  | append offset data =>
    cases hl : r.output.loaded with
    | true =>
      obtain ⟨calls, -, hsurface, -⟩ := exists_calls_append r ⟨offset, data⟩
      exact ⟨calls, by simpa [handle, hl] using hsurface⟩
    | false => exact ⟨[], by simp [handle, hl]⟩

theorem exists_calls_handleAll (r : Rendering σ) (events : List LogEvent) :
    ∃ calls, (r.handleAll events).surface = performAll r.surface calls := by
  induction events generalizing r with
  | nil => exact ⟨[], rfl⟩
  | cons e events ih =>
    obtain ⟨calls₁, hs₁⟩ := r.exists_calls_handle e
    obtain ⟨calls₂, hs₂⟩ := ih (r.handle e).1
    refine ⟨calls₁ ++ calls₂, ?_⟩
    rw [performAll_append, ← hs₁]
    exact hs₂

theorem exists_calls_load_surface (r : Rendering σ) (b : Backend) (session kind : Text) :
    ∃ calls, (r.load b session kind).1.surface = performAll r.surface calls := by
  cases hl : r.output.loaded with
  | true => exact ⟨[], by simp [load, hl]⟩
  | false =>
    obtain ⟨calls₀, hs₀⟩ : ∃ calls, (r.restored b session kind).surface =
        performAll r.surface calls := by
      unfold restored
      split
      · obtain ⟨calls, hsurface, -⟩ := exists_calls_applySnapshot r _
        exact ⟨calls, hsurface⟩
      · exact ⟨[], rfl⟩
    obtain ⟨calls, hs, -⟩ := exists_calls_load hl (Eq.refl (r.restored b session kind))
    refine ⟨calls₀ ++ calls, ?_⟩
    rw [performAll_append, ← hs₀, hs]

end Rendering

/-! ### Calls about something else -/

/-- May the call bring about a new size? -/
def SessionCall.resizes : SessionCall → Bool
  | .requestSize _ _ | .fit _ => true
  | _ => false

namespace Session

/-- Nothing has changed that has to do with what the session has read, but its display may have
been resized. -/
structure Resized (s s' : Session σ) : Prop where
  id_eq : s'.id = s.id
  settings_eq : s'.timer.settings = s.timer.settings
  receiver_eq : s'.receiver = s.receiver
  disposed_eq : s'.disposed = s.disposed
  output_eq : s'.output.resetSinceSnapshot = s.output.resetSinceSnapshot
  surface_eq : ∃ sizes : List Size, s'.surface = s.surface.map (sizes.foldl resize ·)

namespace Resized

variable {s s' s'' : Session σ}

theorem refl (s : Session σ) : s.Resized s := ⟨rfl, rfl, rfl, rfl, rfl, [], by simp⟩

theorem trans (h : s.Resized s') (h' : s'.Resized s'') : s.Resized s'' where
  id_eq := h'.id_eq.trans h.id_eq
  settings_eq := h'.settings_eq.trans h.settings_eq
  receiver_eq := h'.receiver_eq.trans h.receiver_eq
  disposed_eq := h'.disposed_eq.trans h.disposed_eq
  output_eq := h'.output_eq.trans h.output_eq
  surface_eq := by
    obtain ⟨sizes, hs⟩ := h.surface_eq
    obtain ⟨sizes', hs'⟩ := h'.surface_eq
    refine ⟨sizes ++ sizes', ?_⟩
    rw [hs', hs, Option.map_map]
    simp only [List.foldl_append]
    rfl

theorem position_eq (h : s.Resized s') : s'.output.position = s.output.position :=
  (congrArg OutputStream.position h.output_eq :)

theorem loaded_eq (h : s.Resized s') : s'.output.loaded = s.output.loaded :=
  (congrArg OutputStream.loaded h.output_eq :)

theorem held_eq (h : s.Resized s') : s'.output.held = s.output.held :=
  (congrArg OutputStream.held h.output_eq :)

theorem snapshotStale_eq (h : s.Resized s') : s'.output.snapshotStale = s.output.snapshotStale :=
  (congrArg OutputStream.snapshotStale h.output_eq :)

end Resized

theorem SameOutput.resized {s s' : Session σ} (h : s.SameOutput s') : s.Resized s' where
  id_eq := h.id_eq
  settings_eq := congrArg SnapshotTimer.settings h.timer_eq
  receiver_eq := h.receiver_eq
  disposed_eq := h.disposed_eq
  output_eq := congrArg OutputStream.resetSinceSnapshot h.output_eq
  surface_eq := ⟨[], by simp [h.surface_eq]⟩

theorem exists_sizes_apply (z : Resizing) (size : Size) (surface : σ) (b : Backend)
    (session : Text) :
    ∃ sizes : List Size, (z.apply size surface b session).2.2.1 = sizes.foldl resize surface := by
  unfold Resizing.apply
  dsimp only
  split
  · dsimp only
    split
    · exact ⟨[], rfl⟩
    · exact ⟨[size], rfl⟩
  · exact ⟨[], rfl⟩

theorem resized_fit (s : Session σ) (size : Size) (b : Backend) :
    s.Resized (s.fit size b).2.1 := by
  unfold fit
  split
  · rename_i surface hs
    obtain ⟨sizes, hsizes⟩ := exists_sizes_apply s.resizing size surface b s.id
    refine ⟨rfl, rfl, rfl, rfl, rfl, sizes, ?_⟩
    rw [hs]
    exact congrArg some hsizes
  · exact .refl s

theorem resized_pollTimers (s : Session σ) (b : Backend) (now : Nat) :
    s.Resized (s.pollTimers b now).1 := by
  have hexpire : s.Resized (s.expirePaste now) := by
    unfold expirePaste
    split <;> exact ⟨rfl, rfl, rfl, rfl, rfl, [], by simp⟩
  have hresizing (s : Session σ) : s.Resized (s.pollResizing b now).1 := by
    unfold pollResizing
    split
    · rename_i surface hs
      unfold Resizing.poll
      dsimp only
      split
      · rename_i size debouncer _
        obtain ⟨sizes, hsizes⟩ :=
          exists_sizes_apply { s.resizing with debouncer } size surface b s.id
        refine ⟨rfl, rfl, rfl, rfl, rfl, sizes, ?_⟩
        rw [hs]
        exact congrArg some hsizes
      · exact ⟨rfl, rfl, rfl, rfl, rfl, [], by simp [hs]⟩
    · exact .refl s
  have hsnapshots (s : Session σ) (b : Backend) : s.Resized (s.pollSnapshots b now).1 := by
    unfold pollSnapshots
    split
    · rename_i surface hs
      unfold SnapshotTimer.poll SnapshotTimer.flush
      by_cases hdue : s.timer.isDue now
      · rw [if_pos hdue]
        dsimp only
        split <;> exact ⟨rfl, rfl, rfl, rfl, rfl, [], by simp [hs, withRendering]⟩
      · rw [if_neg hdue]
        exact ⟨rfl, rfl, rfl, rfl, rfl, [], by simp [hs, withRendering]⟩
    · exact .refl s
  exact (hexpire.trans (hresizing _)).trans (hsnapshots _ _)

/-- A call that leaves notifications and history alone at most resizes the display. -/
theorem resized_perform (s : Session σ) (b : Backend) {c : SessionCall} (hc : c.isAside = true) :
    s.Resized (s.perform b c).1 := by
  cases ho : c.isOutput with
  | false => exact (sameOutput_perform s b ho (by rintro rfl; cases hc)).resized
  | true =>
    cases c with
    | flush =>
      simp only [perform, flush, SnapshotTimer.flush]
      split
      · rename_i surface hs
        split <;> exact ⟨rfl, rfl, rfl, rfl, rfl, [], by simp [hs, withRendering]⟩
      · exact .refl s
    | pollTimers now => exact resized_pollTimers s b now
    | fit size => exact resized_fit s size b
    | requestSize size now =>
      simp only [perform, requestSize]
      split <;> exact ⟨rfl, rfl, rfl, rfl, rfl, [], by simp⟩
    | load | processEvents => cases hc
    | _ => cases ho

theorem pollResizing_steady {s : Session σ} (hs : s.resizing.debouncer.pending = none)
    (b : Backend) (now : Nat) : s.pollResizing b now = (s, b) := by
  unfold pollResizing
  split
  · rename_i surface hsurface
    simp only [Resizing.poll, Debouncer.poll, hs, ← hsurface]
  · rfl

/-- If no size is asked for, a call that asks for none leaves the display as it is. -/
theorem steady_perform {s : Session σ} (hs : s.resizing.debouncer.pending = none) (b : Backend)
    {c : SessionCall} (hc : c.isAside = true) (hr : c.resizes = false) :
    (s.perform b c).1.surface = s.surface ∧
      (s.perform b c).1.resizing.debouncer.pending = none := by
  cases ho : c.isOutput with
  | false =>
    have h := sameOutput_perform s b ho (by rintro rfl; cases hc)
    exact ⟨h.surface_eq, by rw [h.resizing_eq, hs]⟩
  | true =>
    cases c with
    | flush =>
      simp only [perform, flush, SnapshotTimer.flush]
      split
      · rename_i surface hsurface
        split <;> exact ⟨hsurface.symm, hs⟩
      · exact ⟨rfl, hs⟩
    | pollTimers now =>
      obtain ⟨hsurface, hpending⟩ : (s.expirePaste now).surface = s.surface ∧
          (s.expirePaste now).resizing.debouncer.pending = none := by
        unfold expirePaste
        split <;> exact ⟨rfl, hs⟩
      simp only [perform, pollTimers, pollResizing_steady hpending, pollSnapshots,
        SnapshotTimer.poll, SnapshotTimer.flush]
      split
      · rename_i surface hsome
        rw [← hsurface, hsome]
        by_cases hdue : (s.expirePaste now).timer.isDue now
        · rw [if_pos hdue]
          dsimp only
          split <;> exact ⟨rfl, hpending⟩
        · rw [if_neg hdue]
          exact ⟨rfl, hpending⟩
      · exact ⟨hsurface, hpending⟩
    | fit | requestSize => cases hr
    | load | processEvents => cases hc
    | _ => cases ho

/-! ### Every call -/

theorem exists_calls_processEvents (s : Session σ) (b : Backend) :
    ∃ calls, (s.processEvents b).2.1.surface = s.surface.map (performAll · calls) := by
  unfold processEvents
  split
  · rename_i surface receiver hsurface _
    obtain ⟨hrendering, -⟩ := foldl_handleEvent s.id (b.receiveAll receiver).1
      ⟨s.output, surface⟩ (b.receiveAll receiver).2
    obtain ⟨calls, hcalls⟩ :=
      Rendering.exists_calls_handleAll ⟨s.output, surface⟩ (b.receiveAll receiver).1
    refine ⟨calls, ?_⟩
    rw [← hrendering] at hcalls
    rw [hsurface]
    exact congrArg some hcalls
  · exact ⟨[], by simp⟩

theorem exists_calls_loadHistory (s : Session σ) (b : Backend) (now : Nat) :
    ∃ calls, (s.loadHistory b now).1.surface = s.surface.map (performAll · calls) := by
  unfold loadHistory
  split
  · exact ⟨[], by simp⟩
  · split
    · rename_i surface hsurface
      obtain ⟨calls, hcalls⟩ := Rendering.exists_calls_load_surface ⟨s.output, surface⟩ b s.id
        s.timer.settings.kind
      refine ⟨calls, ?_⟩
      rw [hsurface]
      exact congrArg some hcalls
    · exact ⟨[], by simp⟩

/-- All that a call does to the display, disposal apart, is to write, clear and resize. -/
theorem exists_calls_perform_of_ne (s : Session σ) (b : Backend) {c : SessionCall}
    (hd : c ≠ .dispose) :
    ∃ calls, (s.perform b c).1.surface = s.surface.map (performAll · calls) := by
  cases hc : c.isAside with
  | true =>
    obtain ⟨sizes, hsizes⟩ := (resized_perform s b hc).surface_eq
    refine ⟨sizes.map .resize, ?_⟩
    rw [hsizes]
    simp only [performAll, List.foldl_map]
    rfl
  | false =>
    cases c with
    | processEvents => exact exists_calls_processEvents s b
    | load now meanwhile =>
      simp only [perform, load]
      split
      · exact ⟨[], by simp⟩
      · obtain ⟨calls, hcalls⟩ := exists_calls_processEvents s b
        obtain ⟨calls', hcalls'⟩ := exists_calls_loadHistory (s.processEvents b).2.1
          ((s.processEvents b).2.2.undergoAll meanwhile) now
        refine ⟨calls ++ calls', ?_⟩
        rw [hcalls', hcalls, Option.map_map]
        simp only [performAll_append]
        rfl
    | dispose => exact absurd rfl hd
    | _ => cases hc

/-- All that a call does to the display is to write, clear and resize, or to release it. -/
theorem exists_calls_perform (s : Session σ) (b : Backend) (c : SessionCall) :
    (s.perform b c).1.surface = none ∨
      ∃ calls, (s.perform b c).1.surface = s.surface.map (performAll · calls) := by
  by_cases hd : c = .dispose
  · subst hd
    simp only [perform, dispose]
    split
    · exact .inr ⟨[], by simp⟩
    · exact .inl rfl
  · exact .inr (exists_calls_perform_of_ne s b hd)

end Session

namespace Host

/-- After any run the display is what writing, clearing and resizing make of it, or is released. -/
theorem exists_calls_advanceAll (h : Host σ) (events : List HostEvent) :
    (h.advanceAll events).session.surface = none ∨
      ∃ calls,
        (h.advanceAll events).session.surface = h.session.surface.map (performAll · calls) := by
  induction events generalizing h with
  | nil => exact .inr ⟨[], by simp⟩
  | cons e events ih =>
    have hstep : (h.advance e).session.surface = none ∨
        ∃ calls, (h.advance e).session.surface = h.session.surface.map (performAll · calls) := by
      cases e with
      | call c => exact h.session.exists_calls_perform h.backend c
      | backend change => exact .inr ⟨[], by simp [advance]⟩
    rcases ih (h.advance e) with hnone | ⟨calls', hcalls'⟩
    · exact .inl hnone
    · rw [advanceAll_cons, hcalls']
      rcases hstep with hnone | ⟨calls, hcalls⟩
      · exact .inl (by rw [hnone]; rfl)
      · refine .inr ⟨calls ++ calls', ?_⟩
        rw [hcalls, Option.map_map]
        simp only [performAll_append]
        rfl

end Host

end TermSession
