import TermSession.Proofs.Json.Embedding

/-!
# Members of written objects

The fields of a structure are found by the names of the members.  So they are the same for an object
that has other members besides those known, and has them in another order.

* `Json.Adds`: an object with more members;
* `Json.Tree.fields?_congr`: fields depend on the members of the known names alone;
* `Json.Adds.fields?_eq`: more members change no field.
-/

namespace TermSession.Json

/-! ### Objects with more members -/

/-- `more` has `members`, in any order, and others besides them.  These are JSON texts, and their
names are not among the known ones. -/
structure Adds (known : List String) (members more : List (String × Text)) : Prop where
  perm : (more.filter fun m => m.1 ∈ known).Perm members
  isSome_read? : ∀ m ∈ more, m.1 ∉ known → (Tree.read? none m.2).isSome

variable {known : List String} {members more : List (String × Text)}

theorem Adds.refl (h : ∀ m ∈ members, m.1 ∈ known) : Adds known members members where
  perm := by
    rw [List.filter_eq_self.2 fun m hm => decide_eq_true (h m hm)]
  isSome_read? m hm hother := absurd (h m hm) hother

/-- All values can be read if those of the known members can. -/
theorem Adds.isSome_read?_of_mem (h : Adds known members more)
    (hmembers : ∀ m ∈ members, (Tree.read? none m.2).isSome) :
    ∀ m ∈ more, (Tree.read? none m.2).isSome := by
  intro m hm
  by_cases hknown : m.1 ∈ known
  · exact hmembers m (h.perm.subset (List.mem_filter.2 ⟨hm, decide_eq_true hknown⟩))
  · exact h.isSome_read? m hm hknown

/-- The members of one known name. -/
theorem Adds.filter_perm (h : Adds known members more) {name : String} (hname : name ∈ known) :
    (more.filter fun m => m.1 = name).Perm (members.filter fun m => m.1 = name) := by
  have hboth : (more.filter fun m => m.1 ∈ known).filter (fun m => m.1 = name) =
      more.filter fun m => m.1 = name := by
    rw [List.filter_filter]
    refine List.filter_congr fun m _ => ?_
    by_cases hm : m.1 = name <;> simp [hm, hname]
  exact hboth ▸ h.perm.filter _

theorem filter_treeOf (members : List (String × Text)) (name : String) :
    ((members.map treeOf).filter fun m => m.1 = some name.toList) =
      (members.filter fun m => m.1 = name).map treeOf := by
  rw [List.filter_map]
  congr 1
  refine List.filter_congr fun m _ => ?_
  simp [treeOf, String.toList_inj]

/-- The fields of an object depend only on its members of the known names. -/
theorem Tree.fields?_congr {names : List String} {a b : List (Option Text × Tree)}
    (ha : ∀ m ∈ a, m.1.isSome) (hb : ∀ m ∈ b, m.1.isSome)
    (h : ∀ name ∈ names, (a.filter fun m => m.1 = some name.toList) =
      b.filter fun m => m.1 = some name.toList) :
    (Tree.obj a).fields? names = (Tree.obj b).fields? names := by
  simp only [fields?, List.all_eq_true.2 ha, List.all_eq_true.2 hb, if_true]
  induction names with
  | nil => rfl
  | cons name names ih =>
    rw [List.mapM_cons, List.mapM_cons, h name (by simp), ih fun n hn => h n (by simp [hn])]

/-- No name stands twice. -/
theorem length_filter_le_one (h : (members.map Prod.fst).Nodup) (name : String) :
    (members.filter fun m => m.1 = name).length ≤ 1 := by
  have hnodup : ((members.filter fun m => m.1 = name).map Prod.fst).Nodup :=
    h.sublist (List.filter_sublist.map _)
  have hsame : (members.filter fun m => m.1 = name).map Prod.fst =
      List.replicate (members.filter fun m => m.1 = name).length name := by
    refine List.eq_replicate_iff.2 ⟨List.length_map _, fun n hn => ?_⟩
    obtain ⟨m, hm, rfl⟩ := List.mem_map.1 hn
    exact of_decide_eq_true (List.mem_filter.1 hm).2
  rwa [hsame, List.nodup_replicate] at hnodup

theorem eq_of_perm_of_length {α : Type} {l l' : List α} (h : l.Perm l') (hlength : l'.length ≤ 1) :
    l = l' := by
  match l', h, hlength with
  | [], h, _ => exact h.eq_nil
  | [_], h, _ => exact List.perm_singleton.1 h

/-- The fields of an object with more members are those of the object. -/
theorem Adds.fields?_eq (h : Adds known members more) (hnodup : (members.map Prod.fst).Nodup) :
    (Tree.obj (more.map treeOf)).fields? known = (Tree.obj (members.map treeOf)).fields? known := by
  have hnames (l : List (String × Text)) : ∀ m ∈ l.map treeOf, m.1.isSome := by
    intro m hm
    obtain ⟨m', -, rfl⟩ := List.mem_map.1 hm
    rfl
  refine Tree.fields?_congr (hnames _) (hnames _) fun name hname => ?_
  have hsame := eq_of_perm_of_length (h.filter_perm hname) (length_filter_le_one hnodup name)
  rw [filter_treeOf, filter_treeOf, hsame]

end TermSession.Json
