import TermSession.Backend.Memory
import TermSession.Debouncer
import TermSession.Terminal.Display

/-!
# Resizing a session

Requests for a size come in bursts; only the last of a burst is applied.  The backend hears of a
size only when it has changed, and the first size that is applied also brings the session's
controller up to date, once.
-/

namespace TermSession

/-- What applying a size did. -/
structure ResizeOutcome where
  size : Size
  /-- The backend was told. -/
  notified : Bool
  /-- The controller was brought up to date. -/
  resynced : Bool
  deriving DecidableEq, Repr, Inhabited

/-- The sizes asked for, and whether one was applied before. -/
structure Resizing where
  debouncer : Debouncer Size
  hasResized : Bool := false
  deriving DecidableEq, Repr, Inhabited

namespace Resizing

variable {σ : Type} [Display σ]

/-- Asks for a size. -/
def request (z : Resizing) (size : Size) (now : Nat) : Resizing :=
  { z with debouncer := z.debouncer.push size now }

/-- Drops the size asked for. -/
def cancel (z : Resizing) : Resizing := { z with debouncer := z.debouncer.cancel }

/-- When the size asked for is due. -/
def deadline (z : Resizing) : Option Nat := z.debouncer.deadline

/-- Applies a size at once.  A size without rows or columns is ignored. -/
def apply (z : Resizing) (size : Size) (surface : σ) (b : Backend) (session : Text) :
    ResizeOutcome × Resizing × σ × Backend :=
  let old := Display.size surface
  if size.isPositive then
    let surface := if old = size then surface else Display.resize surface size
    let new := Display.size surface
    let notified := old ≠ new
    let b := if notified then b.setSize session new else b
    let b := if z.hasResized then b else (b.resync session new).2
    (⟨new, notified, !z.hasResized⟩, { z with hasResized := true }, surface, b)
  else (⟨old, false, false⟩, z, surface, b)

/-- Applies the size asked for if it is due. -/
def poll (z : Resizing) (now : Nat) (surface : σ) (b : Backend) (session : Text) :
    Option ResizeOutcome × Resizing × σ × Backend :=
  match z.debouncer.poll now with
  | (some size, debouncer) =>
    let (outcome, z, surface, b) := { z with debouncer }.apply size surface b session
    (some outcome, z, surface, b)
  | (none, _) => (none, z, surface, b)

end Resizing

end TermSession
