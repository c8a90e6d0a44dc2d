/-!
# Platforms

Keyboards and input methods behave differently from one desktop platform to another.
-/

namespace TermSession

/-- A desktop platform. -/
inductive Platform where
  | macOS
  | linux
  | windows
  deriving DecidableEq, Repr, Inhabited

namespace Platform

/-- The platform this program is built for. -/
def current : Platform := linux

end Platform

end TermSession
