/-!
# Output logs

Everything a shell has written, in the pieces it was written in.  `OutputLog.toList` is the log as
one list of bytes.
-/

namespace TermSession

/-- An output log; the pieces are newest first. -/
structure OutputLog where
  newest : List (List UInt8) := []
  size : Nat := 0
  size_eq : size = newest.flatten.length := by rfl
  deriving DecidableEq, Repr

namespace OutputLog

/-- A log without output. -/
def empty : OutputLog := {}

instance : Inhabited OutputLog := ⟨empty⟩

/-- The bytes in order. -/
def toList (log : OutputLog) : List UInt8 := log.newest.reverse.flatten

/-- Adds a piece at the end. -/
def append (log : OutputLog) (data : List UInt8) : OutputLog :=
  ⟨data :: log.newest, log.size + data.length, by
    rw [List.flatten_cons, List.length_append, log.size_eq, Nat.add_comm]⟩

/-- The bytes from an offset on. -/
def since (log : OutputLog) (offset : Nat) : List UInt8 := log.toList.drop offset

@[simp] theorem toList_empty : empty.toList = [] := rfl

@[simp] theorem toList_append (log : OutputLog) (data : List UInt8) :
    (log.append data).toList = log.toList ++ data := by
  simp [append, toList]

@[simp] theorem length_toList (log : OutputLog) : log.toList.length = log.size := by
  rw [log.size_eq, toList]
  exact (List.reverse_perm log.newest).flatten.length_eq

end OutputLog

end TermSession
