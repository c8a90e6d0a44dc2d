import TermSession.Text.Width

/-!
# Composition

An input method composes text before committing it.  The state says whether a composition is going
on, so that nothing typed meanwhile is taken for input.
-/

namespace TermSession

/-- The state of an input method. -/
inductive Composition where
  | idle
  /-- A composition with the text shown so far. -/
  | composing (preedit : Text)
  deriving DecidableEq, Repr, Inhabited

namespace Composition

/-- Is a composition going on? -/
def isComposing : Composition → Bool
  | idle => false
  | composing _ => true

/-- The text shown so far. -/
def preedit : Composition → Text
  | idle => []
  | composing t => t

/-- A composition starts, replacing any other. -/
def start (_ : Composition) : Composition := composing []

/-- The text shown changes; outside a composition nothing does. -/
def update (c : Composition) (t : Text) : Composition :=
  match c with
  | idle => idle
  | composing _ => composing t

/-- The text that the end of a composition commits.  It counts as typed even if the composition
was abandoned before. -/
def committed (t : Text) : Option Text := if t.isEmpty then none else some t

end Composition

end TermSession
