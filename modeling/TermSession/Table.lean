/-!
# Finite tables

A table holds one value for each of finitely many keys.

* `Table.find?`, `Table.set`;
* `find?_set`: looking up after setting.
-/

namespace TermSession

/-- Values by key; the first entry for a key counts. -/
structure Table (κ α : Type) where
  entries : List (κ × α) := []
  deriving Repr, Inhabited

namespace Table

variable {κ α : Type} [DecidableEq κ]

/-- The value of a key. -/
def find? (t : Table κ α) (k : κ) : Option α := (t.entries.find? fun e => e.1 = k).map Prod.snd

/-- Gives a key a value, in place of any earlier one. -/
def set (t : Table κ α) (k : κ) (v : α) : Table κ α :=
  ⟨(k, v) :: t.entries.filter fun e => e.1 ≠ k⟩

@[simp] theorem find?_empty (k : κ) : find? (⟨[]⟩ : Table κ α) k = none := rfl

theorem find?_set (t : Table κ α) (k k' : κ) (v : α) :
    (t.set k v).find? k' = if k = k' then some v else t.find? k' := by
  unfold find? set
  by_cases h : k = k'
  · simp [h]
  · simp only [List.find?_cons, h, decide_false, if_false]
    congr 1
    rw [List.find?_filter]
    congr 1
    funext e
    by_cases he : e.1 = k' <;> simp [he]
    exact fun h' => h h'.symm

end Table

end TermSession
