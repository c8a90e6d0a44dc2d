import TermSession.OutputStream
import TermSession.Proofs.Terminal.Calls

/-!
# Following a log

A stream learns of its log through events that come late, and through one look at the log itself.
`Leads old events new` says that the events take a log from one content to another, and
`OutputStream.Follows` what a stream may rely on while events still wait for it:

* before the history is loaded nothing is written, and every chunk held back lies inside the log
  as far as the events received have told of it;
* afterwards, unless a restart of the log still waits, the display shows the log up to the stream's
  position, and no event that waits starts beyond that position.

When a restart waits, nothing is promised: it will clear the display.  What it is to show a log is
left open (`Showing`); to have been written just the log is one way (`Showing.whole`).
-/

namespace TermSession

/-- The events take a log from `old` to `new`. -/
inductive Leads : List UInt8 → List LogEvent → List UInt8 → Prop
  | refl (log : List UInt8) : Leads log [] log
  | append {old data new : List UInt8} {events : List LogEvent} :
      Leads (old ++ data) events new → Leads old (.append old.length data :: events) new
  | truncate {old new : List UInt8} {events : List LogEvent} :
      Leads [] events new → Leads old (.truncate 0 :: events) new

/-- No event is a restart of the log. -/
def Unbroken (events : List LogEvent) : Prop := ∀ e ∈ events, e.op = .append

instance (events : List LogEvent) : Decidable (Unbroken events) :=
  inferInstanceAs (Decidable (∀ e ∈ events, e.op = .append))

namespace Leads

variable {old new : List UInt8} {events : List LogEvent}

theorem append_last (h : Leads old events new) (data : List UInt8) :
    Leads old (events ++ [.append new.length data]) (new ++ data) := by
  induction h with
  | refl log => exact .append (.refl _)
  | append _ ih => exact .append ih
  | truncate _ ih => exact .truncate ih

theorem truncate_last (h : Leads old events new) : Leads old (events ++ [.truncate 0]) [] := by
  induction h with
  | refl log => exact .truncate (.refl _)
  | append _ ih => exact .append ih
  | truncate _ ih => exact .truncate ih

theorem isPrefix (h : Leads old events new) (hu : Unbroken events) : old <+: new := by
  induction h with
  | refl log => exact List.prefix_refl log
  | append _ ih =>
    exact (List.prefix_append _ _).trans (ih fun e he => hu e (List.mem_cons_of_mem _ he))
  | truncate _ _ => exact absurd (hu _ List.mem_cons_self) (by simp [LogEvent.op])

theorem eq_of_nil (h : Leads old [] new) : old = new := by
  cases h
  rfl

end Leads

/-! ### Pieces of a log -/

/-- The bytes of a log between two positions. -/
def stretch (log : List UInt8) (p q : Nat) : List UInt8 := (log.take q).drop p

@[simp] theorem stretch_self (log : List UInt8) (p : Nat) : stretch log p p = [] :=
  List.drop_eq_nil_of_le (List.length_take_le _ _)

theorem stretch_append {log : List UInt8} {p q r : Nat} (hpq : p ≤ q) (hqr : q ≤ r)
    (hr : r ≤ log.length) : stretch log p q ++ stretch log q r = stretch log p r := by
  have hcut : log.take q ++ stretch log q r = log.take r := by
    have h := List.take_append_drop q (log.take r)
    rwa [List.take_take, Nat.min_eq_left hqr] at h
  have hq : p ≤ (log.take q).length := by
    rw [List.length_take]
    omega
  rw [stretch, ← List.drop_append_of_le_length hq, hcut]
  rfl

theorem length_stretch {log : List UInt8} {p q : Nat} (hq : q ≤ log.length) :
    (stretch log p q).length = q - p := by
  rw [stretch, List.length_drop, List.length_take, Nat.min_eq_left hq]

namespace Chunk

/-- Where a chunk ends in the log. -/
def stop (c : Chunk) : Nat := c.offset + c.data.length

/-- The notification that brings a chunk. -/
def event (c : Chunk) : LogEvent := .append c.offset c.data

/-- The chunk is what the log holds at its offset. -/
def IsPieceOf (c : Chunk) (log : List UInt8) : Prop := c.data <+: log.drop c.offset

instance (c : Chunk) (log : List UInt8) : Decidable (c.IsPieceOf log) :=
  inferInstanceAs (Decidable (c.data <+: log.drop c.offset))

theorem IsPieceOf.stop_le {c : Chunk} {log : List UInt8} (h : c.IsPieceOf log)
    (hc : c.offset ≤ log.length) : c.stop ≤ log.length := by
  have hlength := h.length_le
  rw [List.length_drop] at hlength
  unfold stop
  omega

/-- What a chunk has beyond a position in it. -/
theorem IsPieceOf.drop_eq {c : Chunk} {log : List UInt8} (h : c.IsPieceOf log) {p : Nat}
    (hc : c.offset ≤ p) : c.data.drop (p - c.offset) = stretch log p c.stop := by
  have hdata : c.data = (log.drop c.offset).take c.data.length := (List.prefix_iff_eq_take.1 h)
  rw [hdata, List.drop_take, List.drop_drop, Nat.add_sub_cancel' hc, stretch, List.drop_take, stop]
  congr 1
  omega

end Chunk

/-! ### What a display shows -/

/-- What it is for a display to show a log up to a position, told by the bytes that were written to
it since it was last cleared.  Output that comes later changes nothing of it, and writing more of
the log moves the position on. -/
structure Showing where
  Holds : List UInt8 → List UInt8 → Nat → Prop
  empty : ∀ log, Holds log [] 0
  grow : ∀ {log written p} (data : List UInt8), p ≤ log.length → Holds log written p →
    Holds (log ++ data) written p
  extend : ∀ {log written p q}, p ≤ q → q ≤ log.length → Holds log written p →
    Holds log (written ++ stretch log p q) q

/-- The display was written exactly the log up to the position. -/
def Showing.whole : Showing where
  Holds log written p := written = log.take p
  empty log := rfl
  grow data hp h := by rw [h, List.take_append_of_le_length hp]
  extend {log written p q} hpq hq h := by
    have hstart := stretch_append (Nat.zero_le p) hpq hq
    rw [h]
    exact hstart

/-- What a stream may rely on: `written` is what its display was written since it was last cleared,
`seen` the log as far as the events received have told of it, `events` those that wait, and `log`
the log as it is. -/
structure OutputStream.Follows (S : Showing) (o : OutputStream) (written seen : List UInt8)
    (events : List LogEvent) (log : List UInt8) : Prop where
  leads : Leads seen events log
  untouched : o.loaded = false → written = [] ∧ o.position = 0
  held_le : o.loaded = false → ∀ c ∈ o.held, c.offset + c.data.length ≤ seen.length
  held_nil : o.loaded = true → o.held = []
  caughtUp : o.loaded = true → Unbroken events →
    seen.length ≤ o.position ∧ o.position ≤ log.length ∧ S.Holds log written o.position

namespace OutputStream.Follows

variable {S : Showing} {o : OutputStream} {written seen log : List UInt8} {events : List LogEvent}

/-- New output changes nothing of what a stream relies on. -/
theorem log_append (h : o.Follows S written seen events log) (data : List UInt8) :
    o.Follows S written seen (events ++ [.append log.length data]) (log ++ data) where
  leads := h.leads.append_last data
  untouched := h.untouched
  held_le := h.held_le
  held_nil := h.held_nil
  caughtUp := by
    intro hl hu
    obtain ⟨hle, hlog, hw⟩ := h.caughtUp hl fun e he => hu e (List.mem_append_left _ he)
    refine ⟨hle, ?_, ?_⟩
    · rw [List.length_append]
      omega
    · exact S.grow data hlog hw

/-- A restart of the log voids all promises until it is processed. -/
theorem log_truncate (h : o.Follows S written seen events log) :
    o.Follows S written seen (events ++ [.truncate 0]) [] where
  leads := h.leads.truncate_last
  untouched := h.untouched
  held_le := h.held_le
  held_nil := h.held_nil
  caughtUp := fun _ hu => absurd (hu (.truncate 0) (by simp)) (by simp [LogEvent.op])

end OutputStream.Follows

namespace Rendering

open Display

variable {σ : Type} [Display σ] {S : Showing}

/-- The call that writes data, if there are any. -/
def callsFor (data : List UInt8) : List DisplayCall := if data = [] then [] else [.write data]

theorem isWrite_of_mem_callsFor {data : List UInt8} {c : DisplayCall} (h : c ∈ callsFor data) :
    c.isWrite = true := by
  unfold callsFor at h
  split at h
  · cases h
  · rw [List.mem_singleton.1 h]
    rfl

theorem written_append_callsFor (calls : List DisplayCall) (data : List UInt8) :
    DisplayCall.written (calls ++ callsFor data) = DisplayCall.written calls ++ data := by
  unfold callsFor
  split
  · simp [*]
  · simp [DisplayCall.writtenAfter]

/-- Rendering writes the data and moves all three counts on by their length. -/
theorem render_fst (r : Rendering σ) (data : List UInt8) :
    (r.render data).1 =
      { output := { r.output with
          rendered := r.output.rendered + data.length
          position := r.output.position + data.length
          sinceSnapshot := r.output.sinceSnapshot + data.length }
        surface := performAll r.surface (callsFor data) } := by
  cases data with
  | nil => rfl
  | cons a data => rfl

/-- A chunk that starts no later than the position has its new part rendered. -/
theorem append_fst_of_le (r : Rendering σ) (c : Chunk) (h : c.offset ≤ r.output.position) :
    (r.append c).1 = (r.render (c.data.drop (r.output.position - c.offset))).1 := by
  dsimp only [append]
  split
  · rename_i hend
    rw [List.drop_eq_nil_of_le (by omega)]
    rfl
  · rw [Nat.max_eq_right h]

/-- Whatever a chunk is, appending it only writes, and leaves what is held back. -/
theorem exists_calls_append (r : Rendering σ) (c : Chunk) :
    ∃ calls : List DisplayCall, (∀ c ∈ calls, c.isWrite = true) ∧
      (r.append c).1.surface = performAll r.surface calls ∧
      (r.append c).1.output.loaded = r.output.loaded ∧
      (r.append c).1.output.held = r.output.held := by
  dsimp only [append]
  split
  · exact ⟨[], by simp, rfl, rfl, rfl⟩
  · rw [render_fst]
    exact ⟨_, fun _ => isWrite_of_mem_callsFor, rfl, rfl, rfl⟩

/-- How a rendering moves on while its log is not restarted: it only writes, what was rendered and
the position move together, and a count of zero since the last snapshot means that nothing happened. -/
structure MovesOn (r r' : Rendering σ) (calls : List DisplayCall) : Prop where
  surface : r'.surface = performAll r.surface calls
  isWrite : ∀ c ∈ calls, c.isWrite = true
  rendered : r'.output.rendered + r.output.position = r.output.rendered + r'.output.position
  idle : r'.output.sinceSnapshot = 0 →
    calls = [] ∧ r'.output.position = r.output.position ∧ r.output.sinceSnapshot = 0

namespace MovesOn

variable {r r' r'' : Rendering σ} {calls calls' : List DisplayCall}

theorem refl (r : Rendering σ) : r.MovesOn r [] := ⟨rfl, by simp, rfl, fun h => ⟨rfl, rfl, h⟩⟩

theorem trans (h : r.MovesOn r' calls) (h' : r'.MovesOn r'' calls') :
    r.MovesOn r'' (calls ++ calls') where
  surface := by rw [h'.surface, h.surface, performAll_append]
  isWrite := by
    intro c hc
    rcases List.mem_append.1 hc with hc | hc
    · exact h.isWrite c hc
    · exact h'.isWrite c hc
  rendered := by
    have := h.rendered
    have := h'.rendered
    omega
  idle := by
    intro hs
    obtain ⟨hc', hp', hs'⟩ := h'.idle hs
    obtain ⟨hc, hp, hs⟩ := h.idle hs'
    exact ⟨by rw [hc, hc']; rfl, hp'.trans hp, hs⟩

end MovesOn

theorem movesOn_render (r : Rendering σ) (data : List UInt8) :
    r.MovesOn (r.render data).1 (callsFor data) := by
  rw [render_fst]
  refine ⟨rfl, fun _ => isWrite_of_mem_callsFor, ?_, ?_⟩
  · simp only
    omega
  · intro h
    simp only [Nat.add_eq_zero_iff, List.length_eq_zero_iff] at h
    simp [callsFor, h.1, h.2]

/-! ### One event -/

/-- A chunk that comes after loading is rendered from the position on. -/
theorem follows_append {r : Rendering σ} {calls : List DisplayCall} {seen data log : List UInt8}
    {events : List LogEvent}
    (h : r.output.Follows S (DisplayCall.written calls) seen (.append seen.length data :: events) log)
    (hl : Leads (seen ++ data) events log) (hloaded : r.output.loaded = true) :
    ∃ calls', (r.append ⟨seen.length, data⟩).1.surface = performAll r.surface calls' ∧
      (r.append ⟨seen.length, data⟩).1.output.Follows S (DisplayCall.written (calls ++ calls'))
        (seen ++ data) events log ∧
      (r.append ⟨seen.length, data⟩).1.output.loaded = true ∧
      (Unbroken events → r.MovesOn (r.append ⟨seen.length, data⟩).1 calls') := by
  by_cases hu : Unbroken events
  · -- The new part of the chunk is what the log has beyond the position.
    obtain ⟨hle, hlog, hw⟩ := h.caughtUp hloaded (List.forall_mem_cons.2 ⟨rfl, hu⟩)
    have hmoves := movesOn_render r (data.drop (r.output.position - seen.length))
    rw [append_fst_of_le _ _ hle]
    refine ⟨_, hmoves.surface, ?_, ?_, fun _ => hmoves⟩
    · rw [render_fst, written_append_callsFor]
      refine ⟨hl, by simp [hloaded], by simp [hloaded], fun _ => h.held_nil hloaded, ?_⟩
      intro _ _
      obtain ⟨rest, rfl⟩ := hl.isPrefix hu
      have hpiece : Chunk.IsPieceOf ⟨seen.length, data⟩ (seen ++ data ++ rest) :=
        ⟨rest, by rw [List.append_assoc, List.drop_left]⟩
      have hnew : data.drop (r.output.position - seen.length) =
          stretch (seen ++ data ++ rest) r.output.position
            (r.output.position + (data.drop (r.output.position - seen.length)).length) := by
        rw [List.length_drop]
        by_cases hold : seen.length + data.length ≤ r.output.position
        · rw [List.drop_eq_nil_of_le (by omega), Nat.sub_eq_zero_of_le (by omega), Nat.add_zero,
            stretch_self]
        · rw [hpiece.drop_eq hle, Chunk.stop]
          congr 1
          simp only
          omega
      simp only [List.length_append] at hlog
      refine ⟨?_, ?_, ?_⟩
      · simp only [List.length_append, List.length_drop]
        omega
      · simp only [List.length_append, List.length_drop]
        omega
      · have hshown := S.extend (q := r.output.position +
          (data.drop (r.output.position - seen.length)).length) (Nat.le_add_right _ _) (by
            simp only [List.length_append, List.length_drop]
            omega) hw
        rwa [← hnew] at hshown
    · rw [render_fst, hloaded]
  · -- A restart waits, and nothing is promised of what is written until then.
    obtain ⟨calls', -, hs, hl', hh'⟩ := exists_calls_append r ⟨seen.length, data⟩
    refine ⟨calls', hs, ?_, hl'.trans hloaded, fun h => absurd h hu⟩
    exact ⟨hl, by simp [hl', hloaded], by simp [hl', hloaded],
      fun _ => by rw [hh', h.held_nil hloaded], fun _ h => absurd h hu⟩

/-- After an event a rendering still follows the log.  Either the log was restarted or still will
be, or the rendering moved on. -/
theorem follows_handle {r : Rendering σ} {calls : List DisplayCall} {seen log : List UInt8}
    {e : LogEvent} {events : List LogEvent}
    (h : r.output.Follows S (DisplayCall.written calls) seen (e :: events) log) :
    ∃ calls' seen', (r.handle e).1.surface = performAll r.surface calls' ∧
      (r.handle e).1.output.Follows S (DisplayCall.written (calls ++ calls')) seen' events log ∧
      (r.handle e).1.output.loaded = r.output.loaded ∧
      (Unbroken (e :: events) → r.MovesOn (r.handle e).1 calls') := by
  cases h.leads with
  | @truncate _ _ _ hl =>
    refine ⟨[.clear], [], rfl, ?_, rfl, ?_⟩
    · refine ⟨hl, ?_, ?_, fun _ => rfl, ?_⟩
      · simp [handle, DisplayCall.writtenAfter]
      · simp [handle]
      · intro _ _
        exact ⟨Nat.le_refl _, Nat.zero_le _, by
          rw [DisplayCall.written_append]
          exact S.empty log⟩
    · intro hu
      exact absurd (hu _ List.mem_cons_self) (by simp [LogEvent.op])
  | @append _ data _ _ hl =>
    cases hloaded : r.output.loaded with
    | false =>
      have hh : (r.handle (.append seen.length data)).1 =
          { r with output.held := r.output.held ++ [⟨seen.length, data⟩] } := by
        simp [handle, hloaded]
      rw [hh]
      refine ⟨[], seen ++ data, rfl, ?_, hloaded, fun _ => ?_⟩
      · rw [List.append_nil]
        refine ⟨hl, h.untouched, ?_, ?_, ?_⟩
        · intro _ c hc
          rcases List.mem_append.1 hc with hc | hc
          · have := h.held_le hloaded c hc
            rw [List.length_append]
            omega
          · simp [List.mem_singleton.1 hc]
        · simp [hloaded]
        · simp [hloaded]
      · exact ⟨rfl, by simp, rfl, fun hs => ⟨rfl, rfl, hs⟩⟩
    | true =>
      have hh : r.handle (.append seen.length data) = r.append ⟨seen.length, data⟩ := by
        simp [handle, hloaded]
      rw [hh]
      obtain ⟨calls', hs, hf, hl', hm⟩ := follows_append h hl hloaded
      exact ⟨calls', seen ++ data, hs, hf, hl',
        fun hu => hm fun e he => hu e (List.mem_cons_of_mem _ he)⟩

/-! ### Many events -/

/-- Processes events in order. -/
def handleAll (r : Rendering σ) (events : List LogEvent) : Rendering σ :=
  events.foldl (fun r e => (r.handle e).1) r

/-- After all events a rendering has seen the log as it is. -/
theorem follows_handleAll {r : Rendering σ} {calls : List DisplayCall} {seen log : List UInt8}
    {events : List LogEvent}
    (h : r.output.Follows S (DisplayCall.written calls) seen events log) :
    ∃ calls', (r.handleAll events).surface = performAll r.surface calls' ∧
      (r.handleAll events).output.Follows S (DisplayCall.written (calls ++ calls')) log [] log ∧
      (r.handleAll events).output.loaded = r.output.loaded ∧
      (Unbroken events → r.MovesOn (r.handleAll events) calls') := by
  induction events generalizing r calls seen with
  | nil =>
    obtain rfl := h.leads.eq_of_nil
    exact ⟨[], rfl, by rwa [List.append_nil], rfl, fun _ => .refl r⟩
  | cons e events ih =>
    obtain ⟨calls₁, seen₁, hs₁, hf₁, hl₁, hm₁⟩ := follows_handle h
    obtain ⟨calls₂, hs₂, hf₂, hl₂, hm₂⟩ := ih hf₁
    refine ⟨calls₁ ++ calls₂, ?_, ?_, hl₂.trans hl₁, ?_⟩
    · rw [performAll_append, ← hs₁]
      exact hs₂
    · rw [← List.append_assoc]
      exact hf₂
    · intro hu
      exact (hm₁ hu).trans (hm₂ fun e he => hu e (List.mem_cons_of_mem _ he))

/-! ### Loading -/

theorem appendAll_fst (r : Rendering σ) (chunks : List Chunk) :
    (r.appendAll chunks).1 = chunks.foldl (fun r c => (r.append c).1) r := by
  unfold appendAll
  generalize ([] : List OscCommand) = found
  induction chunks generalizing r found with
  | nil => rfl
  | cons c chunks ih => exact ih _ _

/-- Chunks that end no later than the position have nothing new. -/
theorem appendAll_fst_of_le (r : Rendering σ) {chunks : List Chunk}
    (h : ∀ c ∈ chunks, c.offset + c.data.length ≤ r.output.position) :
    (r.appendAll chunks).1 = r := by
  rw [appendAll_fst]
  induction chunks with
  | nil => rfl
  | cons c chunks ih =>
    have hc := h c List.mem_cons_self
    rw [List.foldl_cons, append, if_pos hc]
    exact ih fun c hc => h c (List.mem_cons_of_mem _ hc)

theorem exists_calls_appendAll (r : Rendering σ) (chunks : List Chunk) :
    ∃ calls : List DisplayCall, (∀ c ∈ calls, c.isWrite = true) ∧
      (r.appendAll chunks).1.surface = performAll r.surface calls ∧
      (r.appendAll chunks).1.output.loaded = r.output.loaded ∧
      (r.appendAll chunks).1.output.held = r.output.held := by
  rw [appendAll_fst]
  induction chunks generalizing r with
  | nil => exact ⟨[], by simp, rfl, rfl, rfl⟩
  | cons c chunks ih =>
    obtain ⟨calls₁, hw₁, hs₁, hl₁, hh₁⟩ := exists_calls_append r c
    obtain ⟨calls₂, hw₂, hs₂, hl₂, hh₂⟩ := ih (r.append c).1
    refine ⟨calls₁ ++ calls₂, ?_, ?_, hl₂.trans hl₁, hh₂.trans hh₁⟩
    · intro c hc
      rcases List.mem_append.1 hc with hc | hc
      · exact hw₁ c hc
      · exact hw₂ c hc
    · rw [performAll_append, ← hs₁]
      exact hs₂

theorem restored_of_no_snapshot {r : Rendering σ} {b : Backend} {session kind : Text}
    (hf : b.failing = []) (hs : b.snapshot? session kind = none) :
    r.restored b session kind = r := by
  simp [restored, startingSnapshot?, Backend.fetchSnapshot, Backend.fails, hf, hs]

theorem restored_of_snapshot {r : Rendering σ} {b : Backend} {session kind : Text} {s : Snapshot}
    (hr : r.output.snapshotStale = false) (hf : b.failing = [])
    (hs : b.snapshot? session kind = some s) (hd : s.data ≠ []) :
    r.restored b session kind = r.applySnapshot s := by
  simp [restored, startingSnapshot?, Backend.fetchSnapshot, Backend.fails, hf, hs, hr,
    Snapshot.isEmpty, hd]

/-- Loading goes on from what is restored with the end of the log, and then with what was held
back, which is all that it hands commands out of. -/
theorem load_eq {r r₀ : Rendering σ} {b : Backend} {session kind : Text}
    (hl : r.output.loaded = false) (hf : b.failing = []) (hr : r.restored b session kind = r₀)
    (hp : r₀.output.position ≤ (b.log session).toList.length) :
    r.load b session kind =
      let tail := (r₀.render ((b.log session).toList.drop r₀.output.position)).1
      let r := { tail with
        output := { tail.output with loaded := true, held := [], snapshotStale := false } }
      let (r, commands) := r.appendAll r₀.output.held
      (r, commands, (b.fetchLog session r₀.output.position).2) := by
  have htail : (b.fetchLog session r₀.output.position).1 =
      .ok ((b.logs.find? session).map fun log =>
        ⟨min r₀.output.position log.size, log.toList.drop (min r₀.output.position log.size)⟩) := by
    simp [Backend.fetchLog, Backend.fetchFile, Backend.fails, hf, OutputLog.since]
  unfold load
  rw [if_neg (by simp [hl])]
  simp only [hr, htail]
  cases hlog : b.logs.find? session with
  | none => simp [Backend.log, hlog, render_fst, callsFor]
  | some log =>
    have hmin : min r₀.output.position log.size = r₀.output.position := by
      have : (b.log session).toList.length = log.size := by simp [Backend.log, hlog]
      omega
    simp [Backend.log, hlog, applyTail, hmin, render_fst]

theorem load_fst {r r₀ : Rendering σ} {b : Backend} {session kind : Text}
    (hl : r.output.loaded = false) (hf : b.failing = []) (hr : r.restored b session kind = r₀)
    (hp : r₀.output.position ≤ (b.log session).toList.length) :
    (r.load b session kind).1 =
      (({ (r₀.render ((b.log session).toList.drop r₀.output.position)).1 with
          output := { (r₀.render ((b.log session).toList.drop r₀.output.position)).1.output with
            loaded := true, held := [], snapshotStale := false } } : Rendering σ).appendAll
        r₀.output.held).1 := by
  rw [load_eq hl hf hr hp]

theorem restored_held (r : Rendering σ) (b : Backend) (session kind : Text) :
    (r.restored b session kind).output.held = r.output.held := by
  unfold restored
  split <;> rfl

/-- Whatever there is to load, loading goes on from what is restored by writing only, and nothing is
held back any more. -/
theorem exists_calls_load {r r₀ : Rendering σ} {b : Backend} {session kind : Text}
    (hl : r.output.loaded = false) (hr : r.restored b session kind = r₀) :
    ∃ calls : List DisplayCall, (r.load b session kind).1.surface = performAll r₀.surface calls ∧
      (r.load b session kind).1.output.loaded = true ∧
      (r.load b session kind).1.output.held = [] := by
  have htail : ∃ (calls : List DisplayCall) (r₁ : Rendering σ),
      r₁.surface = performAll r₀.surface calls ∧
      (r.load b session kind).1 = (Rendering.appendAll { r₁ with
        output := { r₁.output with loaded := true, held := [], snapshotStale := false } }
        r₁.output.held).1 := by
    unfold load
    rw [if_neg (by simp [hl])]
    simp only [hr]
    split
    · rename_i tail _
      exact ⟨callsFor tail.data, r₀.applyTail tail, by rw [applyTail, render_fst], rfl⟩
    · exact ⟨[], r₀, rfl, rfl⟩
  obtain ⟨calls₁, r₁, hs₁, hload⟩ := htail
  obtain ⟨calls₂, -, hs₂, hloaded, hheld⟩ := exists_calls_appendAll
    ({ r₁ with output := { r₁.output with loaded := true, held := [], snapshotStale := false } } :
      Rendering σ) r₁.output.held
  rw [hload]
  refine ⟨calls₁ ++ calls₂, ?_, hloaded, hheld⟩
  rw [performAll_append, ← hs₁]
  exact hs₂

/-- Loading renders once what the log has beyond the snapshot.  If a restart of the log waits, stale
output may be rendered too; the restart will clear it away. -/
theorem follows_load {r r₀ : Rendering σ} {calls : List DisplayCall} (calls₀ : List DisplayCall)
    {seen : List UInt8} {events : List LogEvent} {b : Backend} {session kind : Text}
    (h : r.output.Follows S (DisplayCall.written calls) seen events (b.log session).toList)
    (hl : r.output.loaded = false) (hf : b.failing = []) (hr : r.restored b session kind = r₀)
    (hstart : Unbroken events → r₀.output.position ≤ (b.log session).toList.length ∧
      S.Holds (b.log session).toList (DisplayCall.written (calls ++ calls₀)) r₀.output.position) :
    ∃ calls', (r.load b session kind).1.surface = performAll r₀.surface calls' ∧
      (r.load b session kind).1.output.Follows S
        (DisplayCall.written (calls ++ calls₀ ++ calls')) seen events (b.log session).toList ∧
      (r.load b session kind).1.output.loaded = true ∧
      (Unbroken events → r₀.MovesOn (r.load b session kind).1 calls') := by
  by_cases hu : Unbroken events
  · obtain ⟨hle, hshows⟩ := hstart hu
    have hheld : r₀.output.held = r.output.held := hr ▸ restored_held r b session kind
    have hlen := (h.leads.isPrefix hu).length_le
    have hmoves := movesOn_render r₀ ((b.log session).toList.drop r₀.output.position)
    rw [load_fst hl hf hr hle, hheld]
    generalize (b.log session).toList = log at h hle hshows hlen hmoves ⊢
    have hend : r₀.output.position + (log.drop r₀.output.position).length = log.length := by
      rw [List.length_drop]
      omega
    rw [render_fst] at hmoves ⊢
    rw [appendAll_fst_of_le]
    · refine ⟨callsFor (log.drop r₀.output.position), rfl, ?_, rfl, ?_⟩
      · rw [written_append_callsFor]
        refine ⟨h.leads, by simp, by simp, fun _ => rfl, fun _ _ => ?_⟩
        have hrest : log.drop r₀.output.position = stretch log r₀.output.position log.length := by
          rw [stretch, List.take_length]
        simp only [hend]
        refine ⟨hlen, Nat.le_refl _, ?_⟩
        rw [hrest]
        exact S.extend hle (Nat.le_refl _) hshows
      · exact fun _ => ⟨rfl, hmoves.isWrite, hmoves.rendered, hmoves.idle⟩
    · intro c hc
      have := h.held_le hl c hc
      simp only [hend]
      omega
  · obtain ⟨calls', hsurface, hloaded, hheld⟩ := exists_calls_load hl hr
    exact ⟨calls', hsurface, ⟨h.leads, by simp [hloaded], by simp [hloaded], fun _ => hheld,
      fun _ h => absurd h hu⟩, hloaded, fun h => absurd h hu⟩

end Rendering

end TermSession
