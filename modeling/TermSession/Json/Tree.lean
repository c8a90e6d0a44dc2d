import TermSession.Json.Token

/-!
# JSON as written

A tree holds what a text says: the members of an object in their order, repeated names included.
Reading runs over the tokens with a stack of the containers that are open.

* `Json.Tree`: trees;
* `Json.Frame`, `Json.Expect`, `Json.Reader`: the open containers, and what may come next;
* `Json.Tree.read?`: the tree of a text, optionally with a bound on the nesting.
-/

namespace TermSession.Json

/-- A value as written. -/
inductive Tree where
  | null
  | bool (b : Bool)
  | number (n : Option Number)
  | str (t : Option Text)
  | arr (items : List Tree)
  | obj (members : List (Option Text × Tree))
  deriving Repr, Inhabited, BEq

/-- An open container around what is being read, with its finished parts, newest first. -/
inductive Frame where
  | arr (items : List Tree)
  | obj (members : List (Option Text × Tree)) (name : Option Text)
  deriving Repr, Inhabited

/-- What may come next.  Parts of the innermost container are newest first. -/
inductive Expect where
  /-- A value. -/
  | value
  /-- The first item of an array, or its end. -/
  | firstItem
  /-- A comma or the end of an array. -/
  | nextItem (items : List Tree)
  /-- The first name of an object, or its end. -/
  | firstName
  /-- A name. -/
  | name (members : List (Option Text × Tree))
  /-- The colon after a name. -/
  | colon (members : List (Option Text × Tree)) (name : Option Text)
  /-- A comma or the end of an object. -/
  | nextMember (members : List (Option Text × Tree))
  /-- Nothing. -/
  | done (tree : Tree)
  deriving Repr, Inhabited

/-- The open containers, innermost first, and what may come next. -/
structure Reader where
  stack : List Frame := []
  expect : Expect := .value
  deriving Repr, Inhabited

namespace Reader

/-- Hands a finished value to the innermost open container. -/
def give (stack : List Frame) (tree : Tree) : Reader :=
  match stack with
  | [] => ⟨[], .done tree⟩
  | .arr items :: rest => ⟨rest, .nextItem (tree :: items)⟩
  | .obj members name :: rest => ⟨rest, .nextMember ((name, tree) :: members)⟩

/-- May one more container be opened inside the open ones? -/
def mayOpen (limit : Option Nat) (stack : List Frame) : Bool :=
  limit.all (stack.length < ·)

/-- Reads a token where a value is expected. -/
def value (limit : Option Nat) (stack : List Frame) : Token → Option Reader
  | .null => some (give stack .null)
  | .bool b => some (give stack (.bool b))
  | .number n => some (give stack (.number n))
  | .str t => some (give stack (.str t))
  | .openArr => if mayOpen limit stack then some ⟨stack, .firstItem⟩ else none
  | .openObj => if mayOpen limit stack then some ⟨stack, .firstName⟩ else none
  | _ => none

/-- Reads one token. -/
def step (limit : Option Nat) (r : Reader) (token : Token) : Option Reader :=
  match r.expect, token with
  | .value, token => value limit r.stack token
  | .firstItem, .closeArr => some (give r.stack (.arr []))
  | .firstItem, token => value limit (.arr [] :: r.stack) token
  | .nextItem items, .comma => some ⟨.arr items :: r.stack, .value⟩
  | .nextItem items, .closeArr => some (give r.stack (.arr items.reverse))
  | .firstName, .closeObj => some (give r.stack (.obj []))
  | .firstName, .str name => some ⟨r.stack, .colon [] name⟩
  | .name members, .str name => some ⟨r.stack, .colon members name⟩
  | .colon members name, .colon => some ⟨.obj members name :: r.stack, .value⟩
  | .nextMember members, .comma => some ⟨r.stack, .name members⟩
  | .nextMember members, .closeObj => some (give r.stack (.obj members.reverse))
  | _, _ => none

/-- The value read, once nothing is open. -/
def result? (r : Reader) : Option Tree :=
  match r.stack, r.expect with
  | [], .done tree => some tree
  | _, _ => none

end Reader

/-- The tree of a text, with at most `limit` containers inside one another. -/
def Tree.read? (limit : Option Nat) (t : Text) : Option Tree := do
  let tokens ← tokens? t
  let reader ← tokens.foldlM (Reader.step limit) {}
  reader.result?

end TermSession.Json
