import TermSession.Text.Width

/-!
# TOML values

Floating-point numbers and dates are kept as they are written: nothing here computes with them.
-/

namespace TermSession.Toml

/-- A value of a configuration file. -/
inductive Value where
  | str (t : Text)
  | int (n : Int)
  | bool (b : Bool)
  | float (literal : Text)
  | date (literal : Text)
  | arr (items : List Value)
  | table (entries : List (Text × Value))
  deriving Repr, Inhabited, BEq

namespace Value

/-- The value of a key in a table. -/
def find? (entries : List (Text × Value)) (key : String) : Option Value :=
  (entries.find? fun e => e.1 = key.toList).map Prod.snd

end Value

end TermSession.Toml
