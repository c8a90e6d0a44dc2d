import TermSession.Proofs.Terminal.Sound

/-!
# Editing step by step, with every bound checked

The operations on rows and grids are defined at one stroke.  Here they are done as a machine does
them: one element after the other is taken out and put in, by index, and numbers have sixteen bits.
A step that would leave its array or the sixteen bits gives nothing.  Inside an array of the right
size all steps succeed, and together they do what the operation says.

* `Short.add?`, `Short.sub?`: sixteen bits;
* `Span.set?`, `Span.removeAt?`, `Span.insertAt?`, `Span.fill?`: one step on an array;
* `repeat?`, `repeat?_eq`: loops;
* `Row.write?`, `Row.attach?`, `Row.insertBlanks?`, `Row.deleteCells?`, `Row.erase?`: rows.
-/

namespace TermSession

/-! ### Numbers of sixteen bits -/

namespace Short

/-- The sum, if it has sixteen bits. -/
def add? (m n : Nat) : Option Nat := if m + n ≤ Decimal.maxU16 then some (m + n) else none

/-- The difference, if it is not negative. -/
def sub? (m n : Nat) : Option Nat := if n ≤ m then some (m - n) else none

/-- The sum, cut off at sixteen bits. -/
def addUpTo (m n : Nat) : Nat := min (m + n) Decimal.maxU16

theorem add?_eq {m n : Nat} (h : m + n ≤ Decimal.maxU16) : add? m n = some (m + n) := if_pos h

theorem sub?_eq {m n : Nat} (h : n ≤ m) : sub? m n = some (m - n) := if_pos h

end Short

/-! ### Loops -/

/-- Does `f` `n` times, as long as it succeeds. -/
def repeat? {β : Type} (f : β → Option β) : Nat → β → Option β
  | 0, x => some x
  | n + 1, x => (f x).bind (repeat? f n)

/-- A loop does `g n` if each turn of it takes `g` one step on and keeps what the turns left over
need. -/
theorem repeat?_eq {β : Type} {P : Nat → β → Prop} {f : β → Option β} {g : Nat → β → β}
    (hzero : ∀ x, P 0 x → g 0 x = x)
    (hsucc : ∀ n x, P (n + 1) x → ∃ y, f x = some y ∧ P n y ∧ g n y = g (n + 1) x)
    {n : Nat} {x : β} (hx : P n x) : repeat? f n x = some (g n x) := by
  induction n generalizing x with
  | zero => rw [repeat?, hzero x hx]
  | succ n ih =>
    obtain ⟨y, hf, hy, hg⟩ := hsucc n x hx
    rw [repeat?, hf, Option.bind_some, ih hy, hg]

/-! ### Arrays -/

namespace Span

variable {α : Type}

/-- Overwrites the element at an index. -/
def set? (xs : Array α) (i : Nat) (x : α) : Option (Array α) :=
  if i < xs.size then some (xs.setIfInBounds i x) else none

/-- Overwrites the element at an index if a condition holds. -/
def setIf? (p : Prop) [Decidable p] (xs : Array α) (i : Nat) (x : α) : Option (Array α) :=
  if p then set? xs i x else some xs

/-- Takes the element at an index out; those behind it come forward. -/
def removeAt? (xs : Array α) (i : Nat) : Option (α × Array α) :=
  if h : i < xs.size then some (xs[i], xs.eraseIdx i h) else none

/-- Puts an element in at an index; those from there on go back. -/
def insertAt? (xs : Array α) (i : Nat) (x : α) : Option (Array α) :=
  if h : i ≤ xs.size then some (xs.insertIdx i x h) else none

/-- Overwrites the elements from index `first` to before `last`. -/
def fill? (xs : Array α) (x : α) (first last : Nat) : Option (Array α) :=
  if first ≤ last ∧ last ≤ xs.size then some (fill xs x first (last - first)) else none

variable (xs : Array α) (x : α)

theorem set?_eq {xs : Array α} {i : Nat} (h : i < xs.size) :
    set? xs i x = some (xs.setIfInBounds i x) := if_pos h

/-- An element behind the one at `i` is overwritten if there is one. -/
theorem setIf?_succ (p : Prop) [Decidable p] (i : Nat) :
    setIf? (p ∧ i + 1 < xs.size) xs (i + 1) x =
      some (if p then xs.setIfInBounds (i + 1) x else xs) := by
  unfold setIf?
  by_cases hp : p
  · by_cases hlt : i + 1 < xs.size
    · rw [if_pos ⟨hp, hlt⟩, if_pos hp, set?_eq _ hlt]
    · rw [if_neg (fun h => hlt h.2), if_pos hp, Array.setIfInBounds_eq_of_size_le (by omega)]
  · rw [if_neg (fun h => hp h.1), if_neg hp]

theorem fill?_eq {xs : Array α} {first last : Nat} (h : first ≤ last) (h' : last ≤ xs.size) :
    fill? xs x first last = some (fill xs x first (last - first)) := if_pos ⟨h, h'⟩

/-- An element leaves a span at its start, and a new one comes in at its end. -/
theorem insertAt?_eraseIdx {xs : Array α} {first last : Nat} (h : first ≤ last)
    (h' : last < xs.size) :
    insertAt? (xs.eraseIdx first (by omega)) last x = some (delete xs first (last + 1) 1 x) := by
  rw [insertAt?, dif_pos (by simp; omega)]
  refine congrArg some (Array.ext_getElem? fun j => ?_)
  rw [getElem?_delete xs 1 x j (by omega) (by omega), Array.getElem?_insertIdx,
    Array.getElem?_eraseIdx, Array.getElem?_eraseIdx]
  rcases Nat.lt_trichotomy j last with hj | rfl | hj
  · rw [if_pos hj]
    by_cases hf : j < first
    · rw [if_pos hf, if_neg (by omega)]
    · rw [if_neg hf, if_pos (by omega), if_pos (by omega)]
  · rw [if_neg (by omega), if_pos rfl, if_pos (by simp; omega), if_pos (by omega),
      if_neg (by omega)]
  · rw [if_neg (by omega), if_neg (by omega), if_neg (by omega), if_neg (by omega)]
    congr 1
    omega

/-- An element leaves a span at its end, and a new one comes in at its start. -/
theorem insertAt?_eraseIdx_last {xs : Array α} {first last : Nat} (h : first ≤ last)
    (h' : last < xs.size) :
    insertAt? (xs.eraseIdx last h') first x = some (insert xs first (last + 1) 1 x) := by
  rw [insertAt?, dif_pos (by simp; omega)]
  refine congrArg some (Array.ext_getElem? fun j => ?_)
  rw [getElem?_insert xs 1 x j (by omega) (by omega), Array.getElem?_insertIdx,
    Array.getElem?_eraseIdx, Array.getElem?_eraseIdx]
  rcases Nat.lt_trichotomy j first with hj | rfl | hj
  · rw [if_pos hj, if_pos (by omega), if_neg (by omega)]
  · rw [if_neg (by omega), if_pos rfl, if_pos (by simp; omega), if_pos (by omega),
      if_pos (by omega)]
  · rw [if_neg (by omega), if_neg (by omega)]
    by_cases hl : j ≤ last
    · rw [if_pos (by omega), if_pos (by omega), if_neg (by omega)]
    · rw [if_neg (by omega), if_neg (by omega)]
      congr 1
      omega

theorem eraseIdx_last {xs : Array α} (h : 0 < xs.size) :
    xs.eraseIdx (xs.size - 1) (by omega) = xs.pop := by
  refine Array.ext_getElem? fun j => ?_
  rw [Array.getElem?_eraseIdx, Array.getElem?_pop]
  split
  · rfl
  · rw [Array.getElem?_eq_none (by omega)]

/-- The last element leaves an array, and a new one comes in at an index. -/
theorem insertAt?_pop {xs : Array α} {first : Nat} (h : first < xs.size) :
    insertAt? xs.pop first x = some (insert xs first xs.size 1 x) := by
  have hinsert := insertAt?_eraseIdx_last x (show first ≤ xs.size - 1 by omega)
    (show xs.size - 1 < xs.size by omega)
  rwa [eraseIdx_last (by omega), Nat.sub_add_cancel (by omega)] at hinsert

/-- An element leaves an array, and a new one comes in at its end. -/
theorem push_eraseIdx {xs : Array α} {first : Nat} (h : first < xs.size) :
    (xs.eraseIdx first h).push x = delete xs first xs.size 1 x := by
  refine Array.ext_getElem? fun j => ?_
  rw [getElem?_delete xs 1 x j (by omega) (by omega), Array.getElem?_push, Array.size_eraseIdx,
    Array.getElem?_eraseIdx]
  rcases Nat.lt_trichotomy j (xs.size - 1) with hj | hj | hj
  · rw [if_neg (by omega)]
    by_cases hf : j < first
    · rw [if_pos hf, if_neg (by omega)]
    · rw [if_neg hf, if_pos (by omega), if_pos (by omega)]
  · rw [if_pos hj, if_pos (by omega), if_neg (by omega)]
  · rw [if_neg (by omega), if_neg (by omega), if_neg (by omega), Array.getElem?_eq_none (by omega),
      Array.getElem?_eq_none (by omega)]

theorem delete_zero {xs : Array α} {first last : Nat} (h : first ≤ last) (h' : last ≤ xs.size) :
    delete xs first last 0 x = xs := by
  refine Array.ext_getElem? fun j => ?_
  rw [getElem?_delete xs 0 x j h h']
  split
  · rw [if_pos (by omega), Nat.add_zero]
  · rfl

theorem insert_zero {xs : Array α} {first last : Nat} (h : first ≤ last) (h' : last ≤ xs.size) :
    insert xs first last 0 x = xs := by
  refine Array.ext_getElem? fun j => ?_
  rw [getElem?_insert xs 0 x j h h']
  split
  · rw [if_neg (by omega), Nat.sub_zero]
  · rfl

theorem delete_delete {xs : Array α} {first last : Nat} (h : first ≤ last) (h' : last ≤ xs.size)
    (m n : Nat) : delete (delete xs first last m x) first last n x =
      delete xs first last (n + m) x := by
  refine Array.ext_getElem? fun j => ?_
  rw [getElem?_delete _ n x j h (by simpa using h'), getElem?_delete xs (n + m) x j h h']
  split
  · by_cases hn : j + n < last
    · rw [if_pos hn, getElem?_delete xs m x (j + n) h h', if_pos (by omega), Nat.add_assoc]
    · rw [if_neg hn, if_neg (by omega)]
  · rw [getElem?_delete xs m x j h h', if_neg ‹_›]

theorem insert_insert {xs : Array α} {first last : Nat} (h : first ≤ last) (h' : last ≤ xs.size)
    (m n : Nat) : insert (insert xs first last m x) first last n x =
      insert xs first last (n + m) x := by
  refine Array.ext_getElem? fun j => ?_
  rw [getElem?_insert _ n x j h (by simpa using h'), getElem?_insert xs (n + m) x j h h']
  split
  · by_cases hn : j < first + n
    · rw [if_pos hn, if_pos (by omega)]
    · rw [if_neg hn, getElem?_insert xs m x (j - n) h h', if_pos (by omega)]
      by_cases hm : j - n < first + m
      · rw [if_pos hm, if_pos (by omega)]
      · rw [if_neg hm, if_neg (by omega)]
        congr 1
        omega
  · rw [getElem?_insert xs m x j h h', if_neg ‹_›]

/-- Once a span is filled up with new elements, more of them make no difference. -/
theorem delete_min {first last k : Nat} (h : last - first ≤ k) (n : Nat) :
    delete xs first last (min n k) x = delete xs first last n x := by
  have hmin : min (min n k) (last - first) = min n (last - first) := by omega
  unfold delete
  rw [hmin]

theorem insert_min {first last k : Nat} (h : last - first ≤ k) (n : Nat) :
    insert xs first last (min n k) x = insert xs first last n x := by
  have hmin : min (min n k) (last - first) = min n (last - first) := by omega
  unfold insert
  rw [hmin]

theorem extract_eraseIdx {xs : Array α} (h : 0 < xs.size) (n : Nat) :
    (xs.eraseIdx 0 h).extract n (xs.size - 1) = xs.extract (n + 1) xs.size := by
  obtain ⟨l⟩ := xs
  cases l with
  | nil => simp at h
  | cons a l => simp

theorem toList_take_succ {xs : Array α} (h : 0 < xs.size) (n : Nat) :
    (xs.take (n + 1)).toList = xs[0] :: ((xs.eraseIdx 0 h).take n).toList := by
  obtain ⟨l⟩ := xs
  cases l with
  | nil => simp at h
  | cons a l => simp

theorem insertAt?_zero : insertAt? xs 0 x = some (#[x] ++ xs) := by
  obtain ⟨l⟩ := xs
  simp [insertAt?]

end Span

/-! ### Rows -/

namespace Row

/-- Blanks the other half of a wide character of which one half is at `col`. -/
def split? (row : Row) (col : Nat) : Option Row := do
  let cell ← row[col]?
  let row ← Span.setIf? (0 < col ∧ cell.isContinuation = true) row (col - 1) .blank
  let cell ← row[col]?
  Span.setIf? (cell.width = 2 ∧ col + 1 < row.size) row (col + 1) .blank

/-- Writes a character that takes `width` columns at `col`, in a row of `cols` cells. -/
def write? (row : Row) (cols col : Nat) (c : Char) (width : Nat) : Option Row := do
  let row ← row.split? col
  let row ← Span.set? row col ⟨[c], width⟩
  Span.setIf? (width = 2 ∧ col + 1 < cols) row (col + 1) .continuation

/-- Looks for a cell left of `col` that is not the right half of a wide character, and adds a
character to it. -/
def attach? (row : Row) (c : Char) : Nat → Option Row
  | 0 => some row
  | col + 1 => do
    let cell ← row[col]?
    if cell.isContinuation then row.attach? c col else Span.set? row col (cell.join c)

/-- Inserts blanks at `col`, one by one, but not more than `cols`. -/
def insertBlanks? (row : Row) (cols col n : Nat) : Option Row :=
  repeat? (fun row => Span.insertAt? row.pop col Cell.blank) (min n cols) row

/-- Deletes cells at `col`, one by one, but not more than `cols`. -/
def deleteCells? (row : Row) (cols col n : Nat) : Option Row :=
  repeat? (fun row => (Span.removeAt? row col).map fun (_, row) => row.push Cell.blank) (min n cols)
    row

/-- Blanks `n` cells from `col` on. -/
def erase? (row : Row) (col n : Nat) : Option Row :=
  Span.fill? row .blank col (min (col + n) row.size)

variable {row : Row}

theorem split?_eq {col : Nat} (h : col < row.size) : row.split? col = some (row.split col) := by
  have hleft : Span.setIf? (0 < col ∧ row[col].isContinuation = true) row (col - 1) .blank =
      some (if 0 < col && row[col]?.any Cell.isContinuation then
        row.setIfInBounds (col - 1) .blank else row) := by
    rw [Array.getElem?_eq_getElem h, Option.any_some]
    by_cases hc : 0 < col ∧ row[col].isContinuation = true
    · rw [Span.setIf?, if_pos hc, if_pos (by simpa using hc), Span.set?_eq _ (by omega)]
    · rw [Span.setIf?, if_neg hc, if_neg (by simpa using hc)]
  unfold split? split
  rw [Array.getElem?_eq_getElem h] at hleft ⊢
  simp only [Option.bind_eq_bind, Option.bind_some, hleft]
  generalize hrow : (if (decide (0 < col) && Option.any Cell.isContinuation (some row[col])) = true
    then row.setIfInBounds (col - 1) Cell.blank else row) = row'
  have hsize : row'.size = row.size := by
    rw [← hrow]
    split <;> simp
  rw [Array.getElem?_eq_getElem (by omega : col < row'.size), Option.bind_some, Option.any_some,
    Span.setIf?_succ]
  simp

theorem write?_eq {col : Nat} (h : col < row.size) (c : Char) (width : Nat) :
    row.write? row.size col c width = some (row.write col c width) := by
  have hsplit : col < (row.split col).size := by rwa [size_split]
  have hset := Span.setIf?_succ ((row.split col).setIfInBounds col ⟨[c], width⟩)
    Cell.continuation (width = 2) col
  rw [Array.size_setIfInBounds, size_split] at hset
  unfold write?
  rw [split?_eq h]
  simp only [Option.bind_eq_bind, Option.bind_some, Span.set?_eq _ hsplit]
  exact hset

theorem attach?_eq (c : Char) {col : Nat} (h : col ≤ row.size) :
    row.attach? c col = some (row.attach c col) := by
  induction col with
  | zero => rfl
  | succ col ih =>
    rw [attach?, attach, Array.getElem?_eq_getElem h]
    dsimp only [Option.bind_eq_bind, Option.bind_some]
    split
    · exact ih (by omega)
    · exact Span.set?_eq _ h

theorem insertBlanks?_eq {col : Nat} (h : col < row.size) (n : Nat) :
    row.insertBlanks? row.size col n = some (row.insertBlanks col n) := by
  have hstep (r : Row) (hr : r.size = row.size) :
      Span.insertAt? r.pop col Cell.blank = some (Span.insert r col row.size 1 .blank) := by
    rw [Span.insertAt?_pop _ (by omega), hr]
  have hloop := repeat?_eq (P := fun _ r => r.size = row.size) (n := min n row.size)
    (g := fun n r => Span.insert r col row.size n .blank)
    (fun r hr => Span.insert_zero _ (by omega) (by omega))
    (fun n r hr => ⟨_, hstep r hr, (Span.size_insert ..).trans hr,
      Span.insert_insert _ (by omega) (by omega) 1 n⟩) rfl
  rw [Span.insert_min _ _ (by omega)] at hloop
  exact hloop

theorem deleteCells?_eq {col : Nat} (h : col < row.size) (n : Nat) :
    row.deleteCells? row.size col n = some (row.deleteCells col n) := by
  have hstep (r : Row) (hr : r.size = row.size) :
      (Span.removeAt? r col).map (fun (_, r) => r.push Cell.blank) =
        some (Span.delete r col row.size 1 .blank) := by
    rw [Span.removeAt?, dif_pos (by omega), Option.map_some, ← hr, ← Span.push_eraseIdx _ (by omega)]
  have hloop := repeat?_eq (P := fun _ r => r.size = row.size) (n := min n row.size)
    (g := fun n r => Span.delete r col row.size n .blank)
    (fun r hr => Span.delete_zero _ (by omega) (by omega))
    (fun n r hr => ⟨_, hstep r hr, (Span.size_delete ..).trans hr,
      Span.delete_delete _ (by omega) (by omega) 1 n⟩) rfl
  rw [Span.delete_min _ _ (by omega)] at hloop
  exact hloop

theorem erase?_eq {col : Nat} (h : col ≤ row.size) (n : Nat) :
    row.erase? col n = some (row.erase col n) := by
  have hstop : min (col + n) row.size - col = min n (row.size - col) := by omega
  rw [erase?, Span.fill?_eq _ (by omega) (by omega), hstop]
  rfl

end Row

end TermSession
