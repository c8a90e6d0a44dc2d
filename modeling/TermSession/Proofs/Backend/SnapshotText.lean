import TermSession.Proofs.Json.Members
import TermSession.Proofs.Terminal.Sound

/-!
# Snapshots as text

A snapshot is read back from what is written for it.  The reader looks for members by their names,
so it also reads a text with more members than it knows, in any order and any layout.

* `Snapshot.metaTree`: what is written for position and size;
* `Snapshot.ofTree?_adds`: the snapshot of a tree with more members;
* `Snapshot.read?_write_adds`: a snapshot is read back.
-/

namespace TermSession

open Json (Tree Adds treeOf)

namespace Size

/-- What a size says in JSON. -/
def tree (z : Size) : Tree :=
  .obj [(some "rows".toList, .number (some (.int z.rows))),
    (some "cols".toList, .number (some (.int z.cols)))]

theorem read?_write {z : Size} (h : z.IsShort) : Tree.read? none z.write = some z.tree := by
  have hlong : Decimal.maxU16 ≤ Decimal.maxU64 := by decide
  have hrows := Json.read?_writeNat (h.1.trans hlong)
  have hcols := Json.read?_writeNat (h.2.trans hlong)
  rw [write, Json.read?_writeObject (by simp [hrows, hcols])]
  simp [treeOf, hrows, hcols, tree]

theorem ofTree?_tree {z : Size} (h : z.IsShort) : ofTree? z.tree = some z := by
  simp [ofTree?, tree, Tree.fields?, Tree.nat?, h.1, h.2]

end Size

namespace Snapshot

/-- The members that say position and size. -/
def metaMembers (s : Snapshot) : List (String × Text) :=
  ("ptyoffset", Json.writeNat s.offset) :: (s.size.map fun z => ("termsize", z.write)).toList

/-- The members of a snapshot around written position and size. -/
def members (s : Snapshot) (rest : Text) : List (String × Text) :=
  [("data", Json.writeString s.data), ("meta", rest)]

/-- What position and size say in JSON. -/
def metaTree (s : Snapshot) : List (Option Text × Tree) :=
  (some "ptyoffset".toList, .number (some (.int s.offset))) ::
    (s.size.map fun z => (some "termsize".toList, z.tree)).toList

/-- The position is a number of sixty-four bits, and a recorded size is one of sixteen. -/
structure Fits (s : Snapshot) : Prop where
  offset_le : s.offset ≤ Decimal.maxU64
  isShort : ∀ z ∈ s.size, z.IsShort

theorem isSome_read?_metaMembers {s : Snapshot} (h : s.Fits) :
    ∀ m ∈ s.metaMembers, (Tree.read? none m.2).isSome := by
  intro m hm
  obtain rfl | hm := List.mem_cons.1 hm
  · rw [Json.read?_writeNat h.offset_le]
    rfl
  · obtain ⟨z, hz, rfl⟩ := Option.map_eq_some_iff.1 (Option.mem_toList.1 hm)
    rw [Size.read?_write (h.isShort z hz)]
    rfl

theorem map_treeOf_metaMembers {s : Snapshot} (h : s.Fits) :
    s.metaMembers.map treeOf = s.metaTree := by
  have hoffset := Json.read?_writeNat h.offset_le
  cases hsize : s.size with
  | none => simp [metaMembers, metaTree, hsize, treeOf, hoffset]
  | some z =>
    have hz := Size.read?_write (h.isShort z hsize)
    simp [metaMembers, metaTree, hsize, treeOf, hoffset, hz]

theorem sizeOfTree?_tree {z : Size} (h : z.IsShort) :
    sizeOfTree? (some z.tree) = some (some z) := by
  change (Size.ofTree? z.tree).map some = some (some z)
  rw [Size.ofTree?_tree h, Option.map_some]

/-- Position and size are found among more members. -/
theorem metaOfTree?_adds {s : Snapshot} (h : s.Fits) {inner : List (String × Text)}
    (hinner : Adds ["ptyoffset", "termsize"] s.metaMembers inner) :
    metaOfTree? (.obj (inner.map treeOf)) = some (s.offset, s.size) := by
  have hnodup : (s.metaMembers.map Prod.fst).Nodup := by
    cases hsize : s.size <;> simp [metaMembers, hsize]
  have hoffset : (s.offset : Int) ≤ Decimal.maxU64 := by exact_mod_cast h.offset_le
  rw [metaOfTree?, hinner.fields?_eq hnodup, map_treeOf_metaMembers h]
  cases hsize : s.size with
  | none => simp [Tree.fields?, metaTree, hsize, Tree.nat?, hoffset, sizeOfTree?]
  | some z =>
    simp [Tree.fields?, metaTree, hsize, Tree.nat?, hoffset, sizeOfTree?_tree (h.isShort z hsize)]

section Members

variable {s : Snapshot} {inner outer : List (String × Text)}

theorem map_treeOf_members (hinner : ∀ m ∈ inner, (Tree.read? none m.2).isSome) :
    (s.members (Json.writeObject inner)).map treeOf =
      [(some "data".toList, .str (some s.data)),
        (some "meta".toList, .obj (inner.map treeOf))] := by
  simp [members, treeOf, Json.read?_writeString, Json.read?_writeObject hinner]

theorem isSome_read?_members (hinner : ∀ m ∈ inner, (Tree.read? none m.2).isSome) :
    ∀ m ∈ s.members (Json.writeObject inner), (Tree.read? none m.2).isSome := by
  simp [members, Json.read?_writeString, Json.read?_writeObject hinner]

/-- Data, position and size are found among more members. -/
theorem ofTree?_adds (h : s.Fits)
    (hinner : Adds ["ptyoffset", "termsize"] s.metaMembers inner)
    (houter : Adds ["data", "meta"] (s.members (Json.writeObject inner)) outer) :
    ofTree? (.obj (outer.map treeOf)) = some s := by
  have hnodup : ((s.members (Json.writeObject inner)).map Prod.fst).Nodup := by simp [members]
  have hreads := hinner.isSome_read?_of_mem (isSome_read?_metaMembers h)
  rw [ofTree?, houter.fields?_eq hnodup, map_treeOf_members hreads]
  simp [Tree.fields?, Tree.text?, metaOfTree?_adds h hinner]

end Members

theorem adds_metaMembers (s : Snapshot) :
    Adds ["ptyoffset", "termsize"] s.metaMembers s.metaMembers := by
  refine Adds.refl fun m hm => ?_
  cases hsize : s.size <;> simp_all [metaMembers]
  rcases hm with rfl | rfl <;> simp

theorem adds_members (s : Snapshot) (rest : Text) :
    Adds ["data", "meta"] (s.members rest) (s.members rest) := by
  refine Adds.refl fun m hm => ?_
  obtain rfl | rfl : m = ("data", _) ∨ m = ("meta", _) := by simpa [members] using hm
  · simp
  · simp

/-! ### Snapshots come back -/

/-- What is written for a snapshot says its data, its position and, if there is one, its size.  A
text that says this, in any layout and with any other members among those of the snapshot and of its
inner object, reads as that snapshot. -/
theorem read?_write_adds {s : Snapshot} (h : s.Fits) :
    Tree.read? none s.write =
        some (.obj [(some "data".toList, .str (some s.data)),
          (some "meta".toList, .obj s.metaTree)]) ∧
      (some "termsize".toList ∈ s.metaTree.map Prod.fst ↔ s.size.isSome) ∧
      read? s.write = some s ∧
      ∀ inner outer t, Adds ["ptyoffset", "termsize"] s.metaMembers inner →
        Adds ["data", "meta"] (s.members (Json.writeObject inner)) outer →
          Json.tokens? t = Json.tokens? (Json.writeObject outer) → read? t = some s := by
  have hmeta := isSome_read?_metaMembers h
  have hreads {inner outer t} (hinner : Adds ["ptyoffset", "termsize"] s.metaMembers inner)
      (houter : Adds ["data", "meta"] (s.members (Json.writeObject inner)) outer)
      (ht : Json.tokens? t = Json.tokens? (Json.writeObject outer)) : read? t = some s := by
    have hmembers := isSome_read?_members (s := s) (hinner.isSome_read?_of_mem hmeta)
    have htree := Json.read?_writeObject (houter.isSome_read?_of_mem hmembers)
    rw [Tree.read?, ← ht, ← Tree.read?] at htree
    rw [read?, htree, Option.bind_some, ofTree?_adds h hinner houter]
  refine ⟨?_, ?_, hreads s.adds_metaMembers (s.adds_members _) rfl, fun _ _ _ => hreads⟩
  · rw [← map_treeOf_metaMembers h, ← map_treeOf_members hmeta,
      ← Json.read?_writeObject (isSome_read?_members hmeta)]
    rfl
  · cases hsize : s.size <;> simp [metaTree, hsize]

/-- Data with a quote, a backslash, controls and a character beyond the basic plane, the largest
position, and more members in another order. -/
theorem read?_write_adds_escapes :
    let s : Snapshot :=
      ⟨['"', '\\', '\n', '\x1b', '\x00', '😀'], Decimal.maxU64, some ⟨24, Decimal.maxU16⟩⟩
    s.Fits ∧ read? s.write = some s ∧
      read? (Json.writeObject
        [("meta", Json.writeObject (("rows", Json.writeNat 7) :: s.metaMembers)),
          ("note", Json.writeString ['"']), ("data", Json.writeString s.data)]) = some s := by
  intro s
  have h : s.Fits := ⟨Nat.le_refl _, by rintro z ⟨⟩; exact ⟨by decide, by decide⟩⟩
  have hinner : Adds ["ptyoffset", "termsize"] s.metaMembers
      (("rows", Json.writeNat 7) :: s.metaMembers) := by
    refine ⟨by simp [s, metaMembers], ?_⟩
    simp [s, metaMembers, Json.read?_writeNat (n := 7) (by decide)]
  have houter : Adds ["data", "meta"]
      (s.members (Json.writeObject (("rows", Json.writeNat 7) :: s.metaMembers)))
      [("meta", Json.writeObject (("rows", Json.writeNat 7) :: s.metaMembers)),
        ("note", Json.writeString ['"']), ("data", Json.writeString s.data)] := by
    refine ⟨?_, by simp [Json.read?_writeString]⟩
    simpa [members] using List.Perm.swap _ _ _
  obtain ⟨-, -, hwritten, hmore⟩ := read?_write_adds h
  exact ⟨h, hwritten, hmore _ _ _ hinner houter rfl⟩

end Snapshot

end TermSession
