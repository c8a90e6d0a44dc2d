/-!
# Spans of an array

A span is a stretch of neighbouring elements of an array: cells of a row, or rows of a grid.  What
happens inside a span leaves the array as long as it was, and everything outside the span in its
place.

* `Span.fill`: overwriting a span with one element;
* `Span.delete`, `Span.insert`: moving the elements of a span to one end of it, with the other end
  filled up;
* `getElem?_fill`, `getElem?_delete`, `getElem?_insert`: what stands where afterwards.
-/

namespace TermSession.Span

variable {α : Type}

/-- Overwrites `n` elements from index `i` on with `x`. -/
def fill (xs : Array α) (x : α) (i : Nat) : Nat → Array α
  | 0 => xs
  | n + 1 => fill (xs.setIfInBounds i x) x (i + 1) n

/-- Exchanges `k` elements from index `i` on, the first one first, each with the element `n` places
behind it.  The later elements so come `n` places forward. -/
def pullForward (xs : Array α) (i n : Nat) : Nat → Array α
  | 0 => xs
  | k + 1 => pullForward (xs.swapIfInBounds i (i + n)) (i + 1) n k

/-- Exchanges `k` elements from index `i` on, the last one first, each with the element `n` places
behind it.  The elements so go `n` places back. -/
def pushBack (xs : Array α) (i n : Nat) : Nat → Array α
  | 0 => xs
  | k + 1 => pushBack (xs.swapIfInBounds (i + k) (i + k + n)) i n k

/-- Deletes `n` elements from `first` on, of a span that ends before `last`.  As many `x` come in at
the end of the span. -/
def delete (xs : Array α) (first last n : Nat) (x : α) : Array α :=
  let n := min n (last - first)
  fill (pullForward xs first n (last - first - n)) x (last - n) n

/-- Inserts `n` times `x` at `first`, into a span that ends before `last`.  Elements pushed over the
end of the span are lost. -/
def insert (xs : Array α) (first last n : Nat) (x : α) : Array α :=
  let n := min n (last - first)
  fill (pushBack xs first n (last - first - n)) x first n

/-! ### Sizes -/

@[simp] theorem size_fill (xs : Array α) (x : α) (i n : Nat) : (fill xs x i n).size = xs.size := by
  induction n generalizing xs i with
  | zero => rfl
  | succ n ih => rw [fill, ih, Array.size_setIfInBounds]

@[simp] theorem size_pullForward (xs : Array α) (i n k : Nat) :
    (pullForward xs i n k).size = xs.size := by
  induction k generalizing xs i with
  | zero => rfl
  | succ k ih => rw [pullForward, ih, Array.size_swapIfInBounds]

@[simp] theorem size_pushBack (xs : Array α) (i n k : Nat) :
    (pushBack xs i n k).size = xs.size := by
  induction k generalizing xs with
  | zero => rfl
  | succ k ih => rw [pushBack, ih, Array.size_swapIfInBounds]

@[simp] theorem size_delete (xs : Array α) (first last n : Nat) (x : α) :
    (delete xs first last n x).size = xs.size := by
  simp [delete]

@[simp] theorem size_insert (xs : Array α) (first last n : Nat) (x : α) :
    (insert xs first last n x).size = xs.size := by
  simp [insert]

/-! ### Elements -/

theorem getElem?_fill (xs : Array α) (x : α) (i n j : Nat) :
    (fill xs x i n)[j]? = if i ≤ j ∧ j < i + n ∧ j < xs.size then some x else xs[j]? := by
  induction n generalizing xs i with
  | zero => simp [fill]; omega
  | succ n ih =>
    rw [fill, ih, Array.getElem?_setIfInBounds, Array.size_setIfInBounds]
    by_cases h : i = j
    · subst h
      by_cases hs : i < xs.size <;> simp [hs]
    · simp only [h, if_false]
      congr 1
      simp only [eq_iff_iff]
      omega

theorem getElem?_swapIfInBounds_of_ne (xs : Array α) {i i' j : Nat} (h : j ≠ i) (h' : j ≠ i') :
    (xs.swapIfInBounds i i')[j]? = xs[j]? := by
  unfold Array.swapIfInBounds
  split
  · split
    · rw [Array.getElem?_swap]
      simp [h.symm, h'.symm]
    · rfl
  · rfl

theorem getElem?_pullForward_of_lt (xs : Array α) (n k : Nat) {i j : Nat} (h : j < i) :
    (pullForward xs i n k)[j]? = xs[j]? := by
  induction k generalizing xs i with
  | zero => rfl
  | succ k ih =>
    rw [pullForward, ih _ (by omega), getElem?_swapIfInBounds_of_ne _ (by omega) (by omega)]

theorem getElem?_pullForward_of_le (xs : Array α) {i n k j : Nat} (h : i + k + n ≤ j) :
    (pullForward xs i n k)[j]? = xs[j]? := by
  induction k generalizing xs i with
  | zero => rfl
  | succ k ih =>
    rw [pullForward, ih _ (by omega), getElem?_swapIfInBounds_of_ne _ (by omega) (by omega)]

theorem getElem?_pullForward (xs : Array α) {i n k j : Nat} (h : i ≤ j) (h' : j < i + k)
    (hs : i + k + n ≤ xs.size) : (pullForward xs i n k)[j]? = xs[j + n]? := by
  induction k generalizing xs i with
  | zero => omega
  | succ k ih =>
    rw [pullForward]
    by_cases hj : i = j
    · subst hj
      rw [getElem?_pullForward_of_lt _ _ _ (by omega), Array.swapIfInBounds,
        dif_pos (by omega), dif_pos (by omega), Array.getElem?_swap]
      by_cases hn : n = 0
      · simp [hn]
      · simp [hn]
    · rw [ih _ (by omega) (by omega) (by simp; omega),
        getElem?_swapIfInBounds_of_ne _ (by omega) (by omega)]

theorem getElem?_pushBack_of_lt (xs : Array α) (n k : Nat) {i j : Nat} (h : j < i) :
    (pushBack xs i n k)[j]? = xs[j]? := by
  induction k generalizing xs with
  | zero => rfl
  | succ k ih => rw [pushBack, ih, getElem?_swapIfInBounds_of_ne _ (by omega) (by omega)]

theorem getElem?_pushBack_of_le (xs : Array α) {i n k j : Nat} (h : i + k + n ≤ j) :
    (pushBack xs i n k)[j]? = xs[j]? := by
  induction k generalizing xs with
  | zero => rfl
  | succ k ih =>
    rw [pushBack, ih _ (by omega), getElem?_swapIfInBounds_of_ne _ (by omega) (by omega)]

theorem getElem?_pushBack (xs : Array α) {i n k j : Nat} (h : i + n ≤ j) (h' : j < i + k + n)
    (hs : i + k + n ≤ xs.size) : (pushBack xs i n k)[j]? = xs[j - n]? := by
  induction k generalizing xs with
  | zero => omega
  | succ k ih =>
    rw [pushBack]
    by_cases hj : j = i + k + n
    · subst hj
      rw [getElem?_pushBack_of_le _ (by omega), Array.swapIfInBounds,
        dif_pos (by omega), dif_pos (by omega), Array.getElem?_swap]
      simp
    · rw [ih _ (by omega) (by simp; omega),
        getElem?_swapIfInBounds_of_ne _ (by omega) (by omega)]

/-- After deleting, an element of the span comes from `n` places behind, or is new. -/
theorem getElem?_delete (xs : Array α) {first last : Nat} (n : Nat) (x : α) (j : Nat)
    (h : first ≤ last) (h' : last ≤ xs.size) :
    (delete xs first last n x)[j]? =
      if first ≤ j ∧ j < last then if j + n < last then xs[j + n]? else some x
      else xs[j]? := by
  unfold delete
  simp only [getElem?_fill, size_pullForward]
  by_cases hj : first ≤ j ∧ j < last
  · rw [if_pos hj]
    by_cases hn : j + n < last
    · rw [if_pos hn, if_neg (by omega), Nat.min_eq_left (by omega),
        getElem?_pullForward _ hj.1 (by omega) (by omega)]
    · rw [if_neg hn, if_pos (by omega)]
  · rw [if_neg hj, if_neg (by omega)]
    by_cases hf : j < first
    · exact getElem?_pullForward_of_lt _ _ _ hf
    · exact getElem?_pullForward_of_le _ (by omega)

/-- After inserting, an element of the span is new, or comes from `n` places before. -/
theorem getElem?_insert (xs : Array α) {first last : Nat} (n : Nat) (x : α) (j : Nat)
    (h : first ≤ last) (h' : last ≤ xs.size) :
    (insert xs first last n x)[j]? =
      if first ≤ j ∧ j < last then if j < first + n then some x else xs[j - n]?
      else xs[j]? := by
  unfold insert
  simp only [getElem?_fill, size_pushBack]
  by_cases hj : first ≤ j ∧ j < last
  · rw [if_pos hj]
    by_cases hn : j < first + n
    · rw [if_pos hn, if_pos (by omega)]
    · rw [if_neg hn, if_neg (by omega), Nat.min_eq_left (by omega),
        getElem?_pushBack _ (by omega) (by omega) (by omega)]
  · rw [if_neg hj, if_neg (by omega)]
    by_cases hf : j < first
    · exact getElem?_pushBack_of_lt _ _ _ hf
    · exact getElem?_pushBack_of_le _ (by omega)

end TermSession.Span
