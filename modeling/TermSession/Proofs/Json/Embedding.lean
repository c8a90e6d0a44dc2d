import TermSession.Proofs.Json.Lexing

/-!
# JSON texts inside others

A reader moves through a text in the same way whatever is open around it.  So a text that reads as a
tree reads as that tree wherever a value may stand, and a written object reads as its members if the
written values do.

* `Json.Reader.under`: a reader with more open around it;
* `Json.run`: what a text does to a reader;
* `Json.read?_writeString`, `Json.read?_writeNat`, `Json.read?_writeObject`: the trees of what is
  written.
-/

namespace TermSession.Json

namespace Reader

/-! ### Readers inside containers -/

/-- A reader with more containers open around it: a value that it has finished is handed to them. -/
def under (outer : List Frame) (r : Reader) : Reader :=
  match r.expect with
  | .done tree => give outer tree
  | e => ⟨r.stack ++ outer, e⟩

theorem under_give (outer stack : List Frame) (tree : Tree) :
    (give stack tree).under outer = give (stack ++ outer) tree := by
  match stack with
  | [] => rfl
  | .arr _ :: _ => rfl
  | .obj _ _ :: _ => rfl

/-- Without a bound on the nesting, a token where a value is expected does the same inside more
containers. -/
theorem value_under {stack : List Frame} {token : Token} {r : Reader}
    (h : value none stack token = some r) (outer : List Frame) :
    value none (stack ++ outer) token = some (r.under outer) := by
  cases token <;> simp_all [value, mayOpen, ← under_give] <;> subst h <;> rfl

/-- Without a bound on the nesting, a token does the same inside more containers. -/
theorem step_under {r r' : Reader} {token : Token} (h : step none r token = some r')
    (outer : List Frame) : step none (r.under outer) token = some (r'.under outer) := by
  obtain ⟨stack, expect⟩ := r
  cases expect with
  -- Nothing is read once the value is there, which is where the containers around it matter.
  | done tree => cases token <;> cases h
  | value => exact value_under h outer
  | firstItem =>
    by_cases htoken : token = .closeArr
    · subst htoken
      cases h
      exact congrArg some (under_give ..).symm
    · have hvalue : value none (.arr [] :: stack) token = some r' := by
        simpa [step, htoken] using h
      have hunder := value_under hvalue outer
      simpa [step, under, htoken] using hunder
  | _ => cases token <;> cases h <;> first | rfl | exact congrArg some (under_give ..).symm

/-- Tokens do the same inside more containers. -/
theorem foldlM_under {tokens : List Token} {r r' : Reader}
    (h : tokens.foldlM (step none) r = some r') (outer : List Frame) :
    tokens.foldlM (step none) (r.under outer) = some (r'.under outer) := by
  induction tokens generalizing r with
  | nil =>
    cases h
    rfl
  | cons token tokens ih =>
    obtain ⟨r₁, hstep, h⟩ := Option.bind_eq_some_iff.1 h
    exact Option.bind_eq_some_iff.2 ⟨_, step_under hstep outer, ih h⟩

theorem result?_eq_some {r : Reader} {tree : Tree} (h : r.result? = some tree) :
    r = ⟨[], .done tree⟩ := by
  unfold result? at h
  split at h
  · cases h
    obtain ⟨stack, expect⟩ := r
    simp_all
  · cases h

end Reader

/-! ### Running over a text -/

/-- The reader after a text. -/
def run (r : Reader) (t : Text) : Option Reader :=
  (tokens? t).bind fun tokens => tokens.foldlM (Reader.step none) r

theorem read?_eq_run (t : Text) : Tree.read? none t = (run {} t).bind Reader.result? := by
  rw [Tree.read?, run, Option.bind_assoc]
  rfl

@[simp] theorem run_nil (r : Reader) : run r [] = some r := by
  simp [run]

/-- A text whose first token is known. -/
theorem run_of_tokens {t rest : Text} {token : Token}
    (h : tokens? t = (tokens? rest).map (token :: ·)) (r : Reader) :
    run r t = (r.step none token).bind (run · rest) := by
  rw [run, h]
  cases hrest : tokens? rest <;> simp [run, hrest]

theorem run_punctuation {c : Char} {token : Token} (h : punctuation? c = some token) (r : Reader)
    (rest : Text) : run r (c :: rest) = (r.step none token).bind (run · rest) :=
  run_of_tokens (tokens?_punctuation h rest) r

theorem run_writeString (r : Reader) (t rest : Text) :
    run r (writeString t ++ rest) = (r.step none (.str (some t))).bind (run · rest) :=
  run_of_tokens (tokens?_writeString_append t rest) r

/-- A text that reads as a tree is that tree wherever a value may stand. -/
theorem run_value {t rest : Text} {tree : Tree} (h : Tree.read? none t = some tree)
    (hrest : EndsWord rest) (stack : List Frame) :
    run ⟨stack, .value⟩ (t ++ rest) = run (Reader.give stack tree) rest := by
  obtain ⟨tokens, htokens, h⟩ := Option.bind_eq_some_iff.1 h
  obtain ⟨r, hr, h⟩ := Option.bind_eq_some_iff.1 h
  obtain rfl := Reader.result?_eq_some h
  have hvalue : tokens.foldlM (Reader.step none) ⟨stack, .value⟩ =
      some (Reader.give stack tree) := Reader.foldlM_under hr stack
  rw [run, tokens?_append htokens hrest, run]
  cases tokens? rest with
  | none => rfl
  | some more => simp [List.foldlM_append, hvalue]

/-! ### What is written -/

theorem read?_writeString (t : Text) : Tree.read? none (writeString t) = some (.str (some t)) := by
  rw [read?_eq_run, ← List.append_nil (writeString t), run_writeString]
  simp [Reader.step, Reader.value, Reader.give, Reader.result?]

theorem read?_writeNat {n : Nat} (h : n ≤ Decimal.maxU64) :
    Tree.read? none (writeNat n) = some (.number (some (.int n))) := by
  rw [Tree.read?, tokens?_writeNat h]
  rfl

/-- A written member with the tree of its value. -/
def treeOf (m : String × Text) : Option Text × Tree :=
  (some m.1.toList, (Tree.read? none m.2).getD .null)

/-- A written member adds itself to the object that is open, where a name may stand. -/
theorem run_writeMember {m : String × Text} (h : (Tree.read? none m.2).isSome) {rest : Text}
    (hrest : EndsWord rest) {r : Reader} (found : List (Option Text × Tree))
    (hr : ∀ name, r.step none (.str name) = some ⟨r.stack, .colon found name⟩) :
    run r (writeMember m ++ rest) = run ⟨r.stack, .nextMember (treeOf m :: found)⟩ rest := by
  obtain ⟨tree, htree⟩ := Option.isSome_iff_exists.1 h
  rw [writeMember, List.append_assoc, List.append_assoc, run_writeString, hr, Option.bind_some,
    List.singleton_append, run_punctuation rfl]
  simp [Reader.step, run_value htree hrest, Reader.give, treeOf, htree]

theorem endsWord_writeMembers (members : List (String × Text)) :
    EndsWord ((members.flatMap fun m => ',' :: writeMember m) ++ ['\x7d']) := by
  cases members <;> exact endsWord_cons.2 rfl

/-- The members after the first one, up to the end of the object. -/
theorem run_writeMembers {members : List (String × Text)}
    (h : ∀ m ∈ members, (Tree.read? none m.2).isSome) (stack : List Frame)
    (found : List (Option Text × Tree)) :
    run ⟨stack, .nextMember found⟩ ((members.flatMap fun m => ',' :: writeMember m) ++ ['\x7d']) =
      some (Reader.give stack (.obj (found.reverse ++ members.map treeOf))) := by
  induction members generalizing found with
  | nil => simp [run_punctuation (c := '\x7d') rfl, Reader.step]
  | cons m members ih =>
    rw [List.flatMap_cons, List.append_assoc, List.cons_append, run_punctuation rfl]
    simp only [Reader.step, Option.bind_some]
    rw [run_writeMember (h m (by simp)) (endsWord_writeMembers _) found fun _ => rfl,
      ih fun m' hm' => h m' (by simp [hm'])]
    simp

theorem intercalate_writeMember (m : String × Text) (members : List (String × Text)) :
    List.intercalate [','] ((m :: members).map writeMember) =
      writeMember m ++ members.flatMap fun m => ',' :: writeMember m := by
  induction members generalizing m with
  | nil => simp [List.intercalate]
  | cons m' members ih =>
    rw [List.map_cons, List.map_cons, List.intercalate_cons_cons, ← List.map_cons, ih]
    simp

/-- A written object reads as its members, if their values can be read. -/
theorem read?_writeObject {members : List (String × Text)}
    (h : ∀ m ∈ members, (Tree.read? none m.2).isSome) :
    Tree.read? none (writeObject members) = some (.obj (members.map treeOf)) := by
  rw [read?_eq_run, writeObject, List.append_assoc, List.singleton_append, run_punctuation rfl]
  simp only [Reader.step, Reader.value, Reader.mayOpen, Option.all_none, if_true, Option.bind_some]
  cases members with
  | nil => simp [run_punctuation (c := '\x7d') rfl, Reader.step, Reader.give, Reader.result?]
  | cons m members =>
    rw [intercalate_writeMember, List.append_assoc,
      run_writeMember (h m (by simp)) (endsWord_writeMembers _) [] fun _ => rfl,
      run_writeMembers fun m' hm' => h m' (by simp [hm'])]
    simp [Reader.give, Reader.result?]

end TermSession.Json
