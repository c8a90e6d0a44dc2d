import TermSession.Toml.Value

/-!
# TOML tables in the making

While a document is read its tables remember how they came about, because that decides what may
still be added: a table has one header, a header may name parents that have none yet, and dotted
keys extend only tables that dotted keys have made.

* `Node`, `Origin`: a tree of tables;
* `Node.descend`: changing the table at the end of a path;
* `Node.define`, `Node.pushTable`, `Node.assign`: a header, a header of an array, a key with its
  value;
* `Node.toValue`: the finished value.
-/

namespace TermSession.Toml

/-- How a table came about. -/
inductive Origin where
  /-- By a header of its own, or as the root. -/
  | header
  /-- As a parent in a header. -/
  | parent
  /-- By a dotted key. -/
  | dotted
  deriving DecidableEq, Repr, Inhabited

/-- An entry of a table in the making. -/
inductive Node where
  | value (v : Value)
  | table (origin : Origin) (entries : List (Text × Node))
  /-- An array of tables, the last one first. -/
  | tables (rows : List (List (Text × Node)))
  deriving Repr, Inhabited

/-- The entries of a table in the making. -/
abbrev Entries := List (Text × Node)

namespace Node

/-- The entry of a key. -/
def find? (es : Entries) (k : Text) : Option Node := (es.find? fun e => e.1 = k).map Prod.snd

/-- Replaces the entry of a key. -/
def replace (es : Entries) (k : Text) (n : Node) : Entries :=
  es.map fun e => if e.1 = k then (k, n) else e

/-- Changes the table at the end of a path by `f`, which also learns how that table came about.
Missing tables are made, with origin `via`.  A path goes through the last table of an array; it
does not go through a value, nor does a dotted path go through a table with a header. -/
def descend (via : Origin) (f : Origin → Entries → Option Entries) (origin : Origin)
    (es : Entries) : List Text → Option Entries
  | [] => f origin es
  | k :: path =>
    match find? es k with
    | none => (descend via f via [] path).map fun made => es ++ [(k, .table via made)]
    | some (.value _) => none
    | some (.tables []) => none
    | some (.tables (row :: rows)) =>
      (descend via f .header row path).map fun row => replace es k (.tables (row :: rows))
    | some (.table origin made) =>
      if via = .dotted && origin = .header then none
      else (descend via f origin made path).map fun made => replace es k (.table origin made)

/-- Splits a path into its parents and its last key. -/
def splitPath (path : List Text) : List Text × Text := (path.dropLast, path.getLast?.getD [])

/-- A header: makes a table, or gives a parent without header one. -/
def define (root : Entries) (path : List Text) : Option Entries :=
  let (parents, k) := splitPath path
  descend .parent (fun _ es =>
    match find? es k with
    | none => some (es ++ [(k, .table .header [])])
    | some (.table .parent made) => some (replace es k (.table .header made))
    | some _ => none) .header root parents

/-- A header of an array: adds a table to the array. -/
def pushTable (root : Entries) (path : List Text) : Option Entries :=
  let (parents, k) := splitPath path
  descend .parent (fun _ es =>
    match find? es k with
    | none => some (es ++ [(k, .tables [[]])])
    | some (.tables rows) => some (replace es k (.tables ([] :: rows)))
    | some _ => none) .header root parents

/-- A key, which may be dotted, with its value: the key must be new, and a dotted one must end in a
table made by dotted keys. -/
def assign (es : Entries) (path : List Text) (v : Value) : Option Entries :=
  let (parents, k) := splitPath path
  descend .dotted (fun origin es =>
    if !parents.isEmpty && origin ≠ .dotted then none
    else if (find? es k).isSome then none
    else some (es ++ [(k, .value v)])) .header es parents

/-- A key with its value in the table of the last header. -/
def assignIn (root : Entries) (header path : List Text) (v : Value) : Option Entries :=
  descend .parent (fun _ es => assign es path v) .header root header

mutual

/-- The finished value of an entry. -/
def toValue : Node → Value
  | value v => v
  | table _ es => .table (toEntries es)
  | tables rows => .arr (toTables [] rows)

/-- The finished entries of a table. -/
def toEntries : List (Text × Node) → List (Text × Value)
  | [] => []
  | (k, n) :: es => (k, n.toValue) :: toEntries es

/-- The finished tables of an array, before those already finished. -/
def toTables (done : List Value) : List (List (Text × Node)) → List Value
  | [] => done
  | row :: rows => toTables (.table (toEntries row) :: done) rows

end

end Node

end TermSession.Toml
