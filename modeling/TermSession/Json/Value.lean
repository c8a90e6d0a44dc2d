import TermSession.Json.Tree

/-!
# JSON values

A value is what a text means: the members of an object are sorted by name, and of members with one
name the last counts.

* `Json.Object`, `Json.Value`;
* `Json.Value.read?`: the value of a text.
-/

namespace TermSession.Json

/-- A JSON value. -/
inductive Value where
  | null
  | bool (b : Bool)
  | number (n : Number)
  | str (t : Text)
  | arr (items : List Value)
  | obj (members : List (Text × Value))
  deriving Repr, Inhabited, BEq

/-- The members of an object, sorted by name, each name once. -/
abbrev Object := List (Text × Value)

namespace Object

/-- Puts a member in front, unless the first one there has its name. -/
def putBefore (m : Text × Value) (o : Object) : Object :=
  match o with
  | n :: _ => if m.1 = n.1 then o else m :: o
  | [] => [m]

/-- The object with the given members; of members with one name the last counts. -/
def ofMembers (members : List (Text × Value)) : Object :=
  (members.mergeSort fun m n => !decide (n.1 < m.1)).foldr putBefore []

end Object

mutual

/-- The value of a tree.  Numbers out of range and strings with half of a surrogate pair have
none. -/
def Tree.value? : Tree → Option Value
  | .null => some .null
  | .bool b => some (.bool b)
  | .number n => n.map .number
  | .str t => t.map .str
  | .arr items => (valuesAfter [] items).map .arr
  | .obj members => (membersAfter [] members).map fun ms => .obj (Object.ofMembers ms)

/-- The values of trees, after those already found (newest first). -/
def valuesAfter (found : List Value) : List Tree → Option (List Value)
  | [] => some found.reverse
  | t :: ts =>
    match t.value? with
    | some v => valuesAfter (v :: found) ts
    | none => none

/-- The values of members, after those already found (newest first). -/
def membersAfter (found : List (Text × Value)) :
    List (Option Text × Tree) → Option (List (Text × Value))
  | [] => some found.reverse
  | (name, t) :: ts =>
    match name, t.value? with
    | some name, some v => membersAfter ((name, v) :: found) ts
    | _, _ => none

end

/-- The most containers inside one another that a value may have. -/
def depthLimit : Nat := 127

/-- The value of a text. -/
def Value.read? (t : Text) : Option Value := (Tree.read? (some depthLimit) t).bind Tree.value?

end TermSession.Json
