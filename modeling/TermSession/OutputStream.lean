import TermSession.Backend.Memory
import TermSession.Terminal.Display

/-!
# Output streams

The way from an output log to a display.  A stream keeps two positions: `offset` counts the bytes
rendered, in sixty-four bits, and `position` says how far into the present log they reach and starts
anew when the log does.  Until the history is loaded, notifications are held back.  A stored
snapshot is taken at its word and may stand for more bytes than any log has; so the offset, unlike
the other counts, may get too large for its sixty-four bits.

* `OutputStream`, `Rendering`: a stream, and a stream with the display it renders to;
* `Rendering.load`: snapshot, end of the log, then what was held back;
* `Rendering.handle`: one notification.
-/

namespace TermSession

/-- A piece of output and where in the log it starts. -/
structure Chunk where
  offset : Nat
  data : List UInt8
  deriving DecidableEq, Repr, Inhabited

/-- The bookkeeping of a stream. -/
structure OutputStream where
  /-- Bytes rendered so far, those that the snapshot stands for among them. -/
  rendered : Nat := 0
  /-- How far into the present log output was rendered. -/
  position : Nat := 0
  /-- Bytes rendered since the last snapshot. -/
  sinceSnapshot : Nat := 0
  loaded : Bool := false
  /-- Chunks that came before the history was loaded. -/
  held : List Chunk := []
  /-- The log started anew before the history was loaded, so a stored snapshot is out of date. -/
  snapshotStale : Bool := false
  deriving DecidableEq, Repr, Inhabited

namespace OutputStream

/-- The bytes rendered so far as a number of sixty-four bits, which starts again from zero behind
the largest. -/
def offset (o : OutputStream) : Nat := o.rendered % UInt64.size

theorem offset_eq {o : OutputStream} {n : Nat} (h : o.rendered = n) :
    o.offset = n % UInt64.size := by
  rw [offset, h]

/-- Starts counting anew after a snapshot. -/
def resetSinceSnapshot (o : OutputStream) : OutputStream := { o with sinceSnapshot := 0 }

/-- Drops what was held back. -/
def dispose (o : OutputStream) : OutputStream := { o with held := [], snapshotStale := false }

end OutputStream

/-- A stream with the display it renders to. -/
structure Rendering (σ : Type := Surface) where
  output : OutputStream := {}
  surface : σ
  deriving DecidableEq, Repr, Inhabited

namespace Rendering

variable {σ : Type} [Display σ]

/-- Writes output that comes next in the log; gives the commands it completes. -/
def render : Rendering σ → List UInt8 → Rendering σ × List OscCommand
  | r, [] => (r, [])
  | ⟨output, surface⟩, data =>
    let (surface, commands) := Display.write surface data
    let n := data.length
    (⟨{ output with
        rendered := output.rendered + n
        position := output.position + n
        sinceSnapshot := output.sinceSnapshot + n }, surface⟩, commands)

/-- Renders what is new in a chunk.  A chunk that starts later than expected leaves a gap. -/
def append (r : Rendering σ) (chunk : Chunk) : Rendering σ × List OscCommand :=
  let position := r.output.position
  if chunk.offset + chunk.data.length ≤ position then (r, [])
  else
    let r := { r with output := { r.output with position := max chunk.offset position } }
    r.render (chunk.data.drop (position - chunk.offset))

/-- Renders chunks in order. -/
def appendAll (r : Rendering σ) (chunks : List Chunk) : Rendering σ × List OscCommand :=
  chunks.foldl (fun (r, found) chunk =>
    let (r, commands) := r.append chunk
    (r, found ++ commands)) (r, [])

/-- Processes one notification. -/
def handle (r : Rendering σ) (event : LogEvent) : Rendering σ × List OscCommand :=
  match event with
  | .truncate offset =>
    ({ surface := Display.clear r.surface
       output := { r.output with
         held := []
         position := offset
         snapshotStale := r.output.snapshotStale || !r.output.loaded } }, [])
  | .append offset data =>
    if r.output.loaded then r.append ⟨offset, data⟩
    else ({ r with output.held := r.output.held ++ [⟨offset, data⟩] }, [])

/-- Writes a snapshot at the size it was taken at, and goes on from its position. -/
def applySnapshot (r : Rendering σ) (s : Snapshot) : Rendering σ :=
  let live := Display.size r.surface
  let write (surface : σ) := (Display.write surface (Utf8.encode s.data)).1
  let surface := match s.size.filter fun size => size.isPositive && size ≠ live with
    | some size => Display.resize (write (Display.resize r.surface size)) live
    | none => write r.surface
  { surface
    output := { r.output with
      position := s.offset
      rendered := max r.output.rendered s.offset } }

/-- The stored snapshot that loading starts from, if there is one that can be had and is not out of
date. -/
def startingSnapshot? (r : Rendering σ) (b : Backend) (session kind : Text) : Option Snapshot :=
  if r.output.snapshotStale then none
  else
    match b.fetchSnapshot session kind with
    | .ok (some s) => if s.isEmpty then none else some s
    | _ => none

/-- What loading starts from: the snapshot, if there is one to start from. -/
def restored (r : Rendering σ) (b : Backend) (session kind : Text) : Rendering σ :=
  match r.startingSnapshot? b session kind with
  | some s => r.applySnapshot s
  | none => r

/-- Renders the end of the log.  One that starts elsewhere than asked moves the position. -/
def applyTail (r : Rendering σ) (tail : LogTail) : Rendering σ :=
  ({ r with output.position := tail.offset }.render tail.data).1

/-- Loads the history: the snapshot, the end of the log from its position on, and then what was
held back.  Only the commands of the last are handed out; those of history took effect before. -/
def load (r : Rendering σ) (b : Backend) (session kind : Text) :
    Rendering σ × List OscCommand × Backend :=
  if r.output.loaded then (r, [], b)
  else
    let r := r.restored b session kind
    let (tail, b) := b.fetchLog session r.output.position
    let r := match tail with
      | .ok (some tail) => r.applyTail tail
      | _ => r
    let held := r.output.held
    let output := { r.output with loaded := true, held := [], snapshotStale := false }
    let r := { r with output }
    let (r, commands) := r.appendAll held
    (r, commands, b)

end Rendering

end TermSession
