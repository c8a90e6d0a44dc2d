/-!
# Debouncing

A debouncer holds the latest of a burst of values until none has come for a while.
-/

namespace TermSession

/-- A value that waits, and until when. -/
structure Pending (α : Type) where
  value : α
  due : Nat
  deriving DecidableEq, Repr, Inhabited

/-- Latest value wins; `delay` is in milliseconds. -/
structure Debouncer (α : Type) where
  delay : Nat
  pending : Option (Pending α) := none
  deriving DecidableEq, Repr, Inhabited

namespace Debouncer

variable {α : Type}

/-- Replaces the value that waits and restarts the delay. -/
def push (d : Debouncer α) (value : α) (now : Nat) : Debouncer α :=
  { d with pending := some ⟨value, now + d.delay⟩ }

/-- Takes the value out once its delay is over. -/
def poll (d : Debouncer α) (now : Nat) : Option α × Debouncer α :=
  match d.pending with
  | some p => if p.due ≤ now then (some p.value, { d with pending := none }) else (none, d)
  | none => (none, d)

/-- When the value that waits is due. -/
def deadline (d : Debouncer α) : Option Nat := d.pending.map Pending.due

/-- Drops the value that waits. -/
def cancel (d : Debouncer α) : Debouncer α := { d with pending := none }

end Debouncer

end TermSession
