import TermSession.OutputStream

/-!
# Saving snapshots

Once enough output has been rendered since the last snapshot, an idle tick saves another, so that
loading costs the snapshot and what came after instead of the whole log.
-/

namespace TermSession

/-- When to save snapshots, and of which kind. -/
structure SnapshotSettings where
  /-- Bytes rendered since the last snapshot before another is saved. -/
  minBytes : Nat := 102400
  /-- Milliseconds between two idle ticks. -/
  interval : Nat := 5000
  kind : Text := "full".toList
  deriving DecidableEq, Repr, Inhabited

/-- The idle timer of a session. -/
structure SnapshotTimer where
  settings : SnapshotSettings
  nextTick : Option Nat := none
  deriving DecidableEq, Repr, Inhabited

namespace SnapshotTimer

variable {σ : Type} [Display σ]

/-- Sets the timer. -/
def start (t : SnapshotTimer) (now : Nat) : SnapshotTimer :=
  { t with nextTick := some (now + t.settings.interval) }

/-- Stops the timer. -/
def cancel (t : SnapshotTimer) : SnapshotTimer := { t with nextTick := none }

/-- Is it time for a tick? -/
def isDue (t : SnapshotTimer) (now : Nat) : Bool := t.nextTick.any (· ≤ now)

/-- Is there enough new output for a snapshot?  A forced one needs some output only. -/
def wants (t : SnapshotTimer) (o : OutputStream) (force : Bool) : Bool :=
  o.loaded && (t.settings.minBytes ≤ o.sinceSnapshot || (force && 0 < o.sinceSnapshot))

/-- The snapshot of a rendering as it is now. -/
def snapshotOf (r : Rendering σ) : Snapshot :=
  { data := Display.transcript r.surface
    offset := r.output.position
    size := some (Display.size r.surface) }

/-- Saves a snapshot if there is enough output; says whether it tried.  The count starts anew even
if the store fails, so that a failing store is not asked on every tick. -/
def flush (t : SnapshotTimer) (r : Rendering σ) (b : Backend) (session : Text) (force : Bool) :
    Bool × Rendering σ × Backend :=
  if t.wants r.output force then
    let (_, b) := b.saveSnapshot session t.settings.kind (snapshotOf r)
    (true, { r with output := r.output.resetSinceSnapshot }, b)
  else (false, r, b)

/-- Runs the tick if it is time, and sets the next one; says whether it tried to save. -/
def poll (t : SnapshotTimer) (now : Nat) (r : Rendering σ) (b : Backend) (session : Text) :
    Bool × SnapshotTimer × Rendering σ × Backend :=
  if t.isDue now then
    let (tried, r, b) := t.flush r b session false
    (tried, t.start now, r, b)
  else (false, t, r, b)

end SnapshotTimer

end TermSession
