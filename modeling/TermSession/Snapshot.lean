import TermSession.Terminal.Screen

/-!
# Snapshots

A snapshot is the transcript of a terminal with the position in the output log that it covers and,
in most cases, the size it was taken at.
-/

namespace TermSession

/-- A transcript with the log position that it covers. -/
structure Snapshot where
  data : Text
  offset : Nat
  size : Option Size := none
  deriving DecidableEq, Repr, Inhabited

namespace Snapshot

/-- A snapshot without data is none at all. -/
def isEmpty (s : Snapshot) : Bool := s.data.isEmpty

/-- The file name of a kind of snapshot. -/
def fileName (kind : Text) : Text := "cache:term:".toList ++ kind

end Snapshot

end TermSession
