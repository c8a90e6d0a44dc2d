import TermSession.Terminal.Row

/-!
# Scrollback

The rows that have left the top of the screen, oldest first, at most `Scrollback.limit` of them.
The rows are kept in two lists so that pushing and popping at the newest end and dropping at the
oldest take constant time on average; `Scrollback.toList` is the view every statement is about.
-/

namespace TermSession

/-- Rows above the screen.  `older` starts with the oldest row, `newer` with the newest. -/
structure Scrollback where
  older : List Row := []
  newer : List Row := []
  size : Nat := 0
  size_eq : size = older.length + newer.length := by simp
  deriving DecidableEq, Repr

namespace Scrollback

/-- The most rows that are kept. -/
def limit : Nat := 10000

/-- No rows. -/
def empty : Scrollback := {}

instance : Inhabited Scrollback := ⟨empty⟩

/-- The rows, oldest first. -/
def toList (s : Scrollback) : List Row := s.older ++ s.newer.reverse

@[simp] theorem length_toList (s : Scrollback) : s.toList.length = s.size := by
  simp [toList, s.size_eq]

/-- Adds a row at the newest end; a full scrollback loses its oldest row. -/
def push (s : Scrollback) (row : Row) : Scrollback :=
  if s.size < limit then
    ⟨s.older, row :: s.newer, s.size + 1, by simp [s.size_eq]; omega⟩
  else
    match h : s.older with
    | _ :: older => ⟨older, row :: s.newer, s.size, by simp [s.size_eq, h]; omega⟩
    | [] => ⟨(s.newer.reverse ++ [row]).drop 1, [], s.size, by simp [s.size_eq, h]⟩

/-- Adds rows in order. -/
def pushAll (s : Scrollback) (rows : List Row) : Scrollback := rows.foldl push s

/-- The newest row and the rest. -/
def pop? (s : Scrollback) : Option (Row × Scrollback) :=
  match h : s.newer with
  | row :: newer => some (row, ⟨s.older, newer, s.size - 1, by simp [s.size_eq, h]⟩)
  | [] =>
    match h' : s.older.reverse with
    | row :: newer =>
      some (row, ⟨[], newer, s.size - 1, by
        have := congrArg List.length h'
        simp at this
        simp [s.size_eq, h, this]⟩)
    | [] => none

/-- Moves up to `n` of the newest rows, in order, to the front of `lines`. -/
def pull (s : Scrollback) (lines : List Row) : Nat → List Row × Scrollback
  | 0 => (lines, s)
  | n + 1 =>
    match s.pop? with
    | some (row, rest) => rest.pull (row :: lines) n
    | none => (lines, s)

@[simp] theorem toList_empty : empty.toList = [] := rfl

@[simp] theorem size_empty : empty.size = 0 := rfl

theorem toList_push (s : Scrollback) (row : Row) :
    (s.push row).toList =
      if s.size < limit then s.toList ++ [row] else (s.toList ++ [row]).drop 1 := by
  unfold push
  split
  · simp [toList]
  · split <;> rename_i h <;> simp [toList, h]

theorem pop?_eq_none_iff (s : Scrollback) : s.pop? = none ↔ s.toList = [] := by
  unfold pop? toList
  split
  · rename_i h; simp [h]
  · rename_i h
    split
    · rename_i h'; simp [h]; intro h''; simp [h''] at h'
    · rename_i h'; simpa [h] using h'

theorem toList_of_pop? {s rest : Scrollback} {row : Row} (h : s.pop? = some (row, rest)) :
    s.toList = rest.toList ++ [row] := by
  unfold pop? at h
  split at h
  · rename_i hn
    simp only [Option.some.injEq, Prod.mk.injEq] at h
    obtain ⟨rfl, rfl⟩ := h
    simp [toList, hn]
  · rename_i hn
    split at h
    · rename_i ho
      simp only [Option.some.injEq, Prod.mk.injEq] at h
      obtain ⟨rfl, rfl⟩ := h
      have := congrArg List.reverse ho
      simp only [List.reverse_reverse, List.reverse_cons] at this
      simp [toList, hn, this]
    · simp at h

end Scrollback

end TermSession
