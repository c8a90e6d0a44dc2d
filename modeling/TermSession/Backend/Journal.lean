/-!
# Journals

A journal is a list that only grows, at its end.  `Journal.toList` is the view; the entries are kept
newest first, so that adding one takes the same time however many there are.
-/

namespace TermSession

/-- Entries in the order they were made, kept newest first. -/
structure Journal (α : Type) where
  newest : List α := []
  deriving DecidableEq, Repr, Inhabited

namespace Journal

variable {α : Type}

/-- The entries, oldest first. -/
def toList (j : Journal α) : List α := j.newest.reverse

/-- Makes an entry. -/
def add (j : Journal α) (a : α) : Journal α := ⟨a :: j.newest⟩

@[simp] theorem toList_empty : ({} : Journal α).toList = [] := rfl

@[simp] theorem toList_add (j : Journal α) (a : α) : (j.add a).toList = j.toList ++ [a] := by
  simp [add, toList]

end Journal

end TermSession
