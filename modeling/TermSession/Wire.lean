import TermSession.Backend.Basic
import TermSession.Json.Tree
import TermSession.Json.Writer

/-!
# Wire forms

The JSON forms of what a backend exchanges: sizes, snapshots, object references and the kinds of
log change.  For each type there is a writer, in the compact form, and a reader.

A structure reads from an object, where unknown members are skipped and a known one may stand only
once, or from an array of its fields in order.
-/

namespace TermSession

/-! ### Reading fields -/

namespace Json.Tree

/-- The fields of a structure, by its field names: `none` for one that is missing.  An object may
have other members; a known one may stand only once.  An array holds the fields in order. -/
def fields? (names : List String) : Tree → Option (List (Option Tree))
  | .obj members =>
    if members.all fun m => m.1.isSome then
      names.mapM fun name =>
        match members.filter fun m => m.1 = some name.toList with
        | [] => some none
        | [m] => some (some m.2)
        | _ => none
    else none
  | .arr items =>
    if items.length ≤ names.length then
      some (items.map some ++ List.replicate (names.length - items.length) none)
    else none
  | _ => none

/-- A text. -/
def text? : Tree → Option Text
  | .str t => t
  | _ => none

/-- A natural number up to a bound. -/
def nat? (bound : Nat) : Tree → Option Nat
  | .number (some (.int n)) => if 0 ≤ n && n ≤ bound then some n.toNat else none
  | _ => none

end Json.Tree

open Json (Tree)

/-! ### Sizes -/

namespace Size

/-- The size of a tree. -/
def ofTree? (t : Tree) : Option Size :=
  match t.fields? ["rows", "cols"] with
  | some [some rows, some cols] => do
    some ⟨← rows.nat? Decimal.maxU16, ← cols.nat? Decimal.maxU16⟩
  | _ => none

/-- A size as JSON. -/
def write (s : Size) : Text :=
  Json.writeObject [("rows", Json.writeNat s.rows), ("cols", Json.writeNat s.cols)]

/-- Reads a size from JSON. -/
def read? (t : Text) : Option Size := (Tree.read? none t).bind ofTree?

end Size

/-! ### Snapshots -/

namespace Snapshot

/-- The recorded size, which may be missing or null. -/
def sizeOfTree? : Option Tree → Option (Option Size)
  | none | some .null => some none
  | some t => (Size.ofTree? t).map some

/-- Position and size from a tree. -/
def metaOfTree? (t : Tree) : Option (Nat × Option Size) :=
  match t.fields? ["ptyoffset", "termsize"] with
  | some [some offset, size] => do
    some (← offset.nat? Decimal.maxU64, ← sizeOfTree? size)
  | _ => none

/-- The snapshot of a tree. -/
def ofTree? (t : Tree) : Option Snapshot :=
  match t.fields? ["data", "meta"] with
  | some [some data, some rest] => do
    let data ← data.text?
    let (offset, size) ← metaOfTree? rest
    some { data, offset, size }
  | _ => none

/-- Position and size as JSON; no member stands for a size that was not recorded. -/
def writeMeta (s : Snapshot) : Text :=
  Json.writeObject
    (("ptyoffset", Json.writeNat s.offset) :: (s.size.map fun z => ("termsize", z.write)).toList)

/-- A snapshot as JSON. -/
def write (s : Snapshot) : Text :=
  Json.writeObject [("data", Json.writeString s.data), ("meta", s.writeMeta)]

/-- Reads a snapshot from JSON. -/
def read? (t : Text) : Option Snapshot := (Tree.read? none t).bind ofTree?

end Snapshot

/-! ### Object references and log operations -/

namespace ObjectRef

/-- The reference of a tree. -/
def ofTree? (t : Tree) : Option ObjectRef :=
  match t.fields? ["otype", "oid"] with
  | some [some otype, some oid] => do some ⟨← otype.text?, ← oid.text?⟩
  | _ => none

/-- A reference as JSON. -/
def write (r : ObjectRef) : Text :=
  Json.writeObject [("otype", Json.writeString r.otype), ("oid", Json.writeString r.oid)]

/-- Reads a reference from JSON. -/
def read? (t : Text) : Option ObjectRef := (Tree.read? none t).bind ofTree?

end ObjectRef

namespace LogOp

/-- The operation's name. -/
def name : LogOp → String
  | append => "append"
  | truncate => "truncate"

/-- The operation with a name. -/
def ofName? (t : Text) : Option LogOp :=
  if t = append.name.toList then some append
  else if t = truncate.name.toList then some truncate
  else none

/-- The operation of a tree: its name, or an object with its name and null. -/
def ofTree? : Tree → Option LogOp
  | .str (some t) => ofName? t
  | .obj [(some t, .null)] => ofName? t
  | _ => none

/-- An operation as JSON. -/
def write (op : LogOp) : Text := Json.writeString op.name.toList

/-- Reads an operation from JSON. -/
def read? (t : Text) : Option LogOp := (Tree.read? none t).bind ofTree?

end LogOp

end TermSession
