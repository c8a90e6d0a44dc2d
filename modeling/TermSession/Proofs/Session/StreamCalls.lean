import Mathlib.Data.List.DropRight
import TermSession.Proofs.Session.Chunks

/-!
# What a stream is asked for

Notifications may overlap, leave gaps, come twice or bring a restart of the log, and the history may
be loaded from any snapshot and any end of a log, as far as the stream is concerned.

* `Chunk.news`, `Chunk.news?`: what is new in a chunk, without and with the bounds of the machine;
* `Answers`, `Rendering.loadFrom`: loading, by what any backend may answer;
* `StreamCall`, `Rendering.respond`: what a stream may be asked for.
-/

namespace TermSession

/-! ### New bytes -/

namespace Long

/-- The sum, if it has sixty-four bits. -/
def add? (m n : Nat) : Option Nat := if m + n ≤ Decimal.maxU64 then some (m + n) else none

/-- The difference, if it is not negative. -/
def sub? (m n : Nat) : Option Nat := if n ≤ m then some (m - n) else none

end Long

namespace Chunk

/-- The last bytes of a chunk, as many as lie beyond a position. -/
def news (c : Chunk) (position : Nat) : List UInt8 :=
  c.data.rtake (min c.data.length (c.stop - position))

theorem news_of_stop_le {c : Chunk} {position : Nat} (h : c.stop ≤ position) :
    c.news position = [] := by
  rw [news, Nat.sub_eq_zero_of_le h, Nat.min_zero, List.rtake_zero]

theorem news_of_lt_stop {c : Chunk} {position : Nat} (h : position < c.stop) :
    c.news position = c.data.drop (position - c.offset) := by
  unfold stop at h
  rw [news, List.rtake, stop]
  congr 1
  omega

/-- Behind what is new the chunk ends, if it ends behind the position. -/
theorem max_add_length_news (c : Chunk) (position : Nat) :
    max c.offset position + (c.news position).length = max position c.stop := by
  by_cases hold : c.stop ≤ position
  · rw [news_of_stop_le hold, Nat.max_eq_right (Nat.le_of_add_right_le hold), Nat.max_eq_left hold]
    rfl
  · have hnew := Nat.not_le.1 hold
    rw [news_of_lt_stop hnew, List.length_drop]
    unfold stop at hnew ⊢
    omega

end Chunk

/-! ### Loading, whatever is answered -/

/-- What a stream learns when it loads: the stored snapshot, and the end of the log from a position
on.  Either may be missing. -/
structure Answers where
  snapshot : Option Snapshot
  tail : Nat → Option LogTail

/-- What a backend answers. -/
def Backend.answers (b : Backend) (session kind : Text) : Answers where
  snapshot := (b.fetchSnapshot session kind).toOption.join
  tail position := (b.fetchLog session position).1.toOption.join

/-- What a stream may be asked for. -/
inductive StreamCall where
  | handle (event : LogEvent)
  | load (a : Answers)
  | resetSinceSnapshot
  | dispose

/-- Is this a call that starts counting anew? -/
def StreamCall.isReset : StreamCall → Bool
  | resetSinceSnapshot => true
  | _ => false

namespace Rendering

open Display

variable {σ : Type} [Display σ]

/-- Appending a chunk renders what is new in it, from where it starts if that is further. -/
theorem append_fst_eq_render (r : Rendering σ) (c : Chunk) :
    (r.append c).1 =
      ({ r with output.position := max c.offset r.output.position }.render
        (c.news r.output.position)).1 := by
  by_cases hold : c.stop ≤ r.output.position
  · have happend : r.append c = (r, []) := if_pos hold
    have hposition : max c.offset r.output.position = r.output.position :=
      Nat.max_eq_right (Nat.le_of_add_right_le hold)
    rw [happend, Chunk.news_of_stop_le hold, hposition]
    rfl
  · have happend : r.append c =
        { r with output.position := max c.offset r.output.position }.render
          (c.data.drop (r.output.position - c.offset)) := if_neg hold
    rw [happend, Chunk.news_of_lt_stop (Nat.not_le.1 hold)]

/-- Appending a chunk writes what is new in it and takes the position to its end, if that is
further. -/
theorem append_fst (r : Rendering σ) (c : Chunk) :
    (r.append c).1 =
      { output := { r.output with
          rendered := r.output.rendered + (c.news r.output.position).length
          position := max r.output.position c.stop
          sinceSnapshot := r.output.sinceSnapshot + (c.news r.output.position).length }
        surface := performAll r.surface (callsFor (c.news r.output.position)) } := by
  rw [append_fst_eq_render, render_fst]
  simp only [c.max_add_length_news]

/-- The snapshot that a stream starts from. -/
def starting? (r : Rendering σ) (a : Answers) : Option Snapshot :=
  if r.output.snapshotStale then none else a.snapshot.filter fun s => !s.isEmpty

/-- A stream with the snapshot that it starts from. -/
def afterSnapshot (r : Rendering σ) (a : Answers) : Rendering σ :=
  (r.starting? a).elim r r.applySnapshot

/-- A stream with the end of the log from its position on. -/
def afterTail (r : Rendering σ) (a : Answers) : Rendering σ :=
  (a.tail r.output.position).elim r r.applyTail

/-- A stream that has its history and holds nothing back. -/
def opened (r : Rendering σ) : Rendering σ :=
  { r with output := { r.output with loaded := true, held := [], snapshotStale := false } }

/-- Loads the history from the answers. -/
def loadFrom (r : Rendering σ) (a : Answers) : Rendering σ × List OscCommand :=
  if r.output.loaded then (r, [])
  else
    let r := (r.afterSnapshot a).afterTail a
    r.opened.appendAll r.output.held

omit [Display σ] in
theorem startingSnapshot?_eq_starting? (r : Rendering σ) (b : Backend) (session kind : Text) :
    r.startingSnapshot? b session kind = r.starting? (b.answers session kind) := by
  unfold startingSnapshot? starting? Backend.answers
  by_cases hstale : r.output.snapshotStale
  · rw [if_pos hstale, if_pos hstale]
  · rw [if_neg hstale, if_neg hstale]
    cases b.fetchSnapshot session kind with
    | error e => rfl
    | ok snapshot =>
      cases snapshot with
      | none => rfl
      | some s => cases hempty : s.isEmpty <;> simp [Except.toOption, Option.filter, hempty]

/-- Loading is loading from the answers of the backend. -/
theorem load_eq_loadFrom (r : Rendering σ) (b : Backend) (session kind : Text) :
    ((r.load b session kind).1, (r.load b session kind).2.1) =
      r.loadFrom (b.answers session kind) := by
  unfold load loadFrom
  by_cases hl : r.output.loaded
  · rw [if_pos hl, if_pos hl]
  · have hrestored : r.restored b session kind = r.afterSnapshot (b.answers session kind) := by
      rw [restored, startingSnapshot?_eq_starting?, afterSnapshot]
      cases r.starting? (b.answers session kind) with
      | none => rfl
      | some s => rfl
    rw [if_neg hl, if_neg hl, hrestored]
    generalize r.afterSnapshot (b.answers session kind) = r
    dsimp only [Backend.answers, afterTail]
    obtain ⟨tail, b⟩ := b.fetchLog session r.output.position
    dsimp only
    rcases tail with e | tail | tail
    · rfl
    · rfl
    · rfl

/-! ### Calls -/

/-- What becomes of a stream by a call. -/
def respond (r : Rendering σ) : StreamCall → Rendering σ
  | .handle event => (r.handle event).1
  | .load a => (r.loadFrom a).1
  | .resetSinceSnapshot => { r with output := r.output.resetSinceSnapshot }
  | .dispose => { r with output := r.output.dispose }

theorem respond_append_of_loaded {r : Rendering σ} (hl : r.output.loaded = true) (offset : Nat)
    (data : List UInt8) :
    r.respond (.handle (.append offset data)) = (r.append ⟨offset, data⟩).1 := by
  rw [respond, handle, if_pos hl]

theorem respond_append {r : Rendering σ} (hl : r.output.loaded = false) (offset : Nat)
    (data : List UInt8) :
    r.respond (.handle (.append offset data)) =
      { r with output.held := r.output.held ++ [⟨offset, data⟩] } := by
  rw [respond, handle, hl]
  rfl

theorem respond_load_of_loaded {r : Rendering σ} (hl : r.output.loaded = true) (a : Answers) :
    r.respond (.load a) = r := by
  rw [respond, loadFrom, if_pos hl]

theorem respond_load {r : Rendering σ} (hl : r.output.loaded = false) (a : Answers) :
    r.respond (.load a) =
      (((r.afterSnapshot a).afterTail a).opened.appendAll
        ((r.afterSnapshot a).afterTail a).output.held).1 := by
  rw [respond, loadFrom, hl]
  rfl

/-- What becomes of a stream by calls, one after the other. -/
def respondAll (r : Rendering σ) (calls : List StreamCall) : Rendering σ := calls.foldl respond r

end Rendering

end TermSession
