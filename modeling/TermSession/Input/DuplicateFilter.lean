import TermSession.Input.Composition

/-!
# Duplicate suppression

Input methods and some keyboards send a second, identical event right after a composition or a
toggle.  The filter drops a text that repeats the last one let through within a window of time;
single letters and digits have a longer window than other texts.

* `FilterSettings`, `DuplicateFilter`, `Decision`;
* `DuplicateFilter.check`: the decision on one text, and what is remembered after it.
-/

namespace TermSession

/-- The filter's windows, in milliseconds. -/
structure FilterSettings where
  enabled : Bool := true
  /-- Any text is a duplicate within this window. -/
  shortWindow : Nat := 50
  /-- A single letter or digit is a duplicate within this window. -/
  alnumWindow : Nat := 500
  /-- Texts this old are forgotten. -/
  horizon : Nat := 1000
  deriving DecidableEq, Repr, Inhabited

/-- The last text let through, and when. -/
structure Passed where
  text : Text
  time : Nat
  deriving DecidableEq, Repr, Inhabited

/-- What becomes of a text. -/
inductive Decision where
  | forward
  | dropComposing
  | dropDuplicate
  deriving DecidableEq, Repr, Inhabited

namespace Decision

/-- The decision's name. -/
def name : Decision → String
  | forward => "Forward"
  | dropComposing => "DropComposing"
  | dropDuplicate => "DropDuplicate"

end Decision

/-- The filter: its windows, whether it is on, and the last text let through. -/
structure DuplicateFilter where
  settings : FilterSettings
  enabled : Bool := settings.enabled
  last : Option Passed := none
  deriving DecidableEq, Repr, Inhabited

/-- Is the text one ASCII letter or digit? -/
def Text.isSingleAlphanumeric : Text → Bool
  | [c] => c.isAlphanum
  | _ => false

namespace DuplicateFilter

/-- Is `t` at time `now` a duplicate of a text let through before? -/
def repeats (f : DuplicateFilter) (last : Passed) (t : Text) (now : Nat) : Bool :=
  let elapsed := now - last.time
  elapsed < f.settings.horizon && last.text = t
    && (elapsed < f.settings.shortWindow
      || (Text.isSingleAlphanumeric t && elapsed < f.settings.alnumWindow))

/-- Decides on a text.  Only texts let through by an enabled filter are remembered, so dropped
repeats do not extend the window. -/
def check (f : DuplicateFilter) (t : Text) (now : Nat) (composition : Composition) :
    Decision × DuplicateFilter :=
  if composition.isComposing then (.dropComposing, f)
  else if !f.enabled then (.forward, f)
  else if f.last.any (f.repeats · t now) then (.dropDuplicate, f)
  else (.forward, { f with last := some ⟨t, now⟩ })

/-- Forgets the last text. -/
def reset (f : DuplicateFilter) : DuplicateFilter := { f with last := none }

/-- Switches the filter; switching it on forgets the last text. -/
def setEnabled (f : DuplicateFilter) (on : Bool) : DuplicateFilter :=
  if on then { f with enabled := true, last := none } else { f with enabled := false }

end DuplicateFilter

end TermSession
