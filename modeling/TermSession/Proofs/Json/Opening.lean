import TermSession.Proofs.Json.Embedding

/-!
# How the text of an object starts

The text of an object starts with a brace, after blanks: no other first token leads to an object,
since an array stays one to its end and nothing follows a value that stands alone.

* `Json.exists_of_tokens?_openObj`: where the first token is the opening of an object;
* `Json.Reader.InArray`: readers whose outermost value is an array;
* `Json.exists_of_read?_obj`: the text of an object.
-/

namespace TermSession.Json

/-! ### First tokens -/

theorem tokens?_append_blanks {blanks : Text} (h : ∀ c ∈ blanks, isBlank c = true) (t : Text) :
    tokens? (blanks ++ t) = tokens? t := by
  induction blanks with
  | nil => rfl
  | cons c blanks ih =>
    rw [List.cons_append, tokens?, tokensAfter_blank (h c (by simp))]
    exact ih fun d hd => h d (by simp [hd])

theorem eq_brace_of_punctuation? {c : Char} (h : punctuation? c = some .openObj) : c = '\x7b' := by
  unfold punctuation? at h
  split at h <;> first | rfl | cases h

theorem word?_ne_openObj (t : Text) : word? t ≠ some .openObj := by
  unfold word?
  split_ifs <;> simp

/-- A text that opens an object at once starts with a brace, after blanks. -/
theorem exists_of_tokens?_openObj {t : Text} {tokens : List Token}
    (h : tokens? t = some (.openObj :: tokens)) :
    ∃ blanks rest, (∀ c ∈ blanks, isBlank c = true) ∧ t = blanks ++ '\x7b' :: rest := by
  induction t with
  | nil => simp at h
  | cons c t ih =>
    rw [tokens?, tokensAfter] at h
    split_ifs at h with hblank hquote
    · obtain ⟨blanks, rest, hblanks, rfl⟩ := ih h
      exact ⟨c :: blanks, rest, List.forall_mem_cons.2 ⟨hblank, hblanks⟩, rfl⟩
    · split at h
      · rw [tokensAfter_eq] at h
        simp at h
      · cases h
    · split at h
      · rename_i token htoken
        rw [tokensAfter_eq] at h
        obtain ⟨_, -, h⟩ := Option.map_eq_some_iff.1 h
        obtain ⟨rfl, -⟩ := List.cons.inj h
        exact ⟨[], t, by simp, by rw [eq_brace_of_punctuation? htoken]; rfl⟩
      · split at h
        · rename_i token hword
          rw [tokensAfter_eq] at h
          obtain ⟨_, -, h⟩ := Option.map_eq_some_iff.1 h
          obtain ⟨rfl, -⟩ := List.cons.inj h
          exact (word?_ne_openObj _ hword).elim
        · cases h

namespace Reader

/-! ### Arrays -/

/-- The outermost value is an array. -/
inductive InArray : Reader → Prop
  | inside {stack : List Frame} {items : List Tree} (h : stack.getLast? = some (.arr items))
      (expect : Expect) : InArray ⟨stack, expect⟩
  | first : InArray ⟨[], .firstItem⟩
  | next (items : List Tree) : InArray ⟨[], .nextItem items⟩
  | done (items : List Tree) : InArray ⟨[], .done (.arr items)⟩

variable {limit : Option Nat} {stack : List Frame} {token : Token} {r r' : Reader}

theorem getLast?_cons_of {items : List Tree} (h : stack.getLast? = some (.arr items)) (f : Frame) :
    (f :: stack).getLast? = some (.arr items) := by
  simp [List.getLast?_cons, h]

theorem inArray_give {items : List Tree} (h : stack.getLast? = some (.arr items)) (tree : Tree) :
    InArray (give stack tree) := by
  match stack, h with
  | [.arr _], _ => exact .next _
  | .arr _ :: _ :: _, h => exact .inside (List.getLast?_cons_cons.symm.trans h) _
  | .obj _ _ :: _ :: _, h => exact .inside (List.getLast?_cons_cons.symm.trans h) _

theorem inArray_value {items : List Tree} (h : stack.getLast? = some (.arr items))
    (hr : value limit stack token = some r) : r.InArray := by
  cases token with
  | null | bool | number | str =>
    cases hr
    exact inArray_give h _
  | openArr | openObj =>
    simp only [value] at hr
    split at hr
    · cases hr
      exact .inside h _
    · cases hr
  | closeArr | closeObj | comma | colon => cases hr

/-- A token does not lead out of an array. -/
theorem InArray.step (h : r.InArray) (hr : r.step limit token = some r') : r'.InArray := by
  cases h with
  | inside h expect =>
    cases expect with
    | value => exact inArray_value h hr
    | firstItem =>
      by_cases htoken : token = .closeArr
      · subst htoken
        cases hr
        exact inArray_give h _
      · simp only [Reader.step] at hr
        exact inArray_value (getLast?_cons_of h _) hr
    | done tree => cases token <;> cases hr
    | nextItem | firstName | name | colon | nextMember =>
      cases token <;> cases hr
      all_goals first
        | exact inArray_give h _
        | exact .inside h _
        | exact .inside (getLast?_cons_of h _) _
  | first =>
    by_cases htoken : token = .closeArr
    · subst htoken
      cases hr
      exact .done []
    · simp only [Reader.step] at hr
      have hlast : [Frame.arr []].getLast? = some (.arr []) := rfl
      exact inArray_value hlast hr
  | next items =>
    cases token <;> cases hr
    · exact .done _
    · exact .inside rfl _
  | done items => cases token <;> cases hr

theorem InArray.foldlM (h : r.InArray) {tokens : List Token}
    (hr : tokens.foldlM (Reader.step limit) r = some r') : r'.InArray := by
  induction tokens generalizing r with
  | nil =>
    cases hr
    exact h
  | cons token tokens ih =>
    obtain ⟨r₁, hstep, hr⟩ := Option.bind_eq_some_iff.1 hr
    exact ih (h.step hstep) hr

/-- Nothing follows a value that stands alone. -/
theorem foldlM_done {tree : Tree} {tokens : List Token}
    (hr : tokens.foldlM (step limit) ⟨[], .done tree⟩ = some r) : r = ⟨[], .done tree⟩ := by
  cases tokens with
  | nil =>
    cases hr
    rfl
  | cons token tokens =>
    rw [List.foldlM_cons] at hr
    obtain ⟨r₁, hstep, -⟩ := Option.bind_eq_some_iff.1 hr
    cases token <;> cases hstep

end Reader

/-! ### Objects -/

/-- A text that reads as an object opens it at once. -/
theorem exists_of_read?_obj {limit : Option Nat} {t : Text} {members : List (Option Text × Tree)}
    (h : Tree.read? limit t = some (.obj members)) :
    ∃ blanks rest, (∀ c ∈ blanks, isBlank c = true) ∧ t = blanks ++ '\x7b' :: rest := by
  obtain ⟨tokens, htokens, h⟩ := Option.bind_eq_some_iff.1 h
  obtain ⟨r, hr, h⟩ := Option.bind_eq_some_iff.1 h
  obtain rfl := Reader.result?_eq_some h
  cases tokens with
  | nil => cases hr
  | cons token tokens =>
    rw [List.foldlM_cons] at hr
    obtain ⟨r₁, hstep, hrest⟩ := Option.bind_eq_some_iff.1 hr
    cases token with
    | openObj => exact exists_of_tokens?_openObj htokens
    | openArr =>
      -- An array stays an array to its end.
      have hfirst : r₁.InArray := by
        simp only [Reader.step, Reader.value] at hstep
        split at hstep <;> cases hstep
        exact .first
      have hlast := hfirst.foldlM hrest
      cases hlast with
      | inside h => cases h
    | null | bool | number | str =>
      cases hstep
      cases Reader.foldlM_done hrest
    | closeArr | closeObj | comma | colon => cases hstep

end TermSession.Json
