import TermSession.Platform

/-!
# Key events

* `Modifier`, `Modifiers`: what a keyboard reports as held, and what counts for a chord;
* `KeyCode`, `KeyEvent`: one key going down, up, or repeating.
-/

namespace TermSession

/-- A modifier that a keyboard may report as held. -/
inductive Modifier where
  | shift
  | ctrl
  | alt
  | super
  | metaKey
  | hyper
  deriving DecidableEq, Repr, Inhabited

/-- The modifiers that tell chords apart.  `super` is the command or logo key, or meta. -/
structure Modifiers where
  shift : Bool := false
  ctrl : Bool := false
  alt : Bool := false
  super : Bool := false
  deriving DecidableEq, Repr, Inhabited

namespace Modifiers

/-- No modifier. -/
def empty : Modifiers := {}

/-- The control key alone. -/
def onlyCtrl : Modifiers := { ctrl := true }

/-- The alt key alone. -/
def onlyAlt : Modifiers := { alt := true }

/-- The super key alone. -/
def onlySuper : Modifiers := { super := true }

/-- The modifiers that count among those held.  Hyper does not. -/
def ofHeld (held : List Modifier) : Modifiers where
  shift := held.contains .shift
  ctrl := held.contains .ctrl
  alt := held.contains .alt
  super := held.contains .super || held.contains .metaKey

/-- Shift 1, control 2, alt 4, super 8. -/
def bits (m : Modifiers) : Nat :=
  m.shift.toNat + 2 * m.ctrl.toNat + 4 * m.alt.toNat + 8 * m.super.toNat

/-- The parameter that reports modifiers in a key's control sequence: one more than shift 1,
alt 2, control 4. -/
def parameter (m : Modifiers) : Nat :=
  1 + m.shift.toNat + 2 * m.alt.toNat + 4 * m.ctrl.toNat

end Modifiers

/-- A modifier key as a key of its own. -/
inductive ModifierKey where
  | leftShift
  | rightShift
  | other
  deriving DecidableEq, Repr, Inhabited

/-- The key of an event. -/
inductive KeyCode where
  | char (c : Char)
  | function (n : Nat)
  | modifier (key : ModifierKey)
  | backspace
  | enter
  | tab
  | backTab
  | escape
  | up
  | down
  | left
  | right
  | home
  | endKey
  | pageUp
  | pageDown
  | insert
  | delete
  | capsLock
  /-- A key that means nothing to a terminal. -/
  | other
  deriving DecidableEq, Repr, Inhabited

namespace KeyCode

/-- Letters without case: the modifiers tell whether shift is held. -/
def normalize : KeyCode → KeyCode
  | char c => char c.toLower
  | code => code

end KeyCode

/-- What happened to a key. -/
inductive KeyMotion where
  | press
  | release
  | repeated
  deriving DecidableEq, Repr, Inhabited

/-- One event of the keyboard. -/
structure KeyEvent where
  code : KeyCode
  held : List Modifier := []
  motion : KeyMotion := .press
  deriving DecidableEq, Repr, Inhabited

namespace KeyEvent

/-- The modifiers that count. -/
def modifiers (e : KeyEvent) : Modifiers := .ofHeld e.held

end KeyEvent

end TermSession
