import TermSession.Toml.Node
import TermSession.Toml.Quoted
import TermSession.Toml.Scalar

/-!
# Reading TOML

* `readKey`: a key, possibly dotted;
* `readValue`: a value;
* `readDocument`: a whole document, as the entries of its root table.

Loops over the text carry a bound `steps` on their steps.  Every step takes a character at least, so
that the length of the document is bound enough for all of them.
-/

namespace TermSession.Toml

open Quoted (isBlank afterNewline?)

/-- Drops blanks at the front. -/
def dropBlanks (t : Text) : Text := t.dropWhile isBlank

/-- Drops a comment at the front, up to the end of its line. -/
def dropComment : Text → Text
  | '#' :: rest => rest.dropWhile Quoted.isPlain
  | t => t

/-- Drops blanks, comments and ends of lines at the front. -/
def dropIgnored : Nat → Text → Text
  | 0, t => t
  | steps + 1, t =>
    match afterNewline? (dropComment (dropBlanks t)) with
    | some rest => dropIgnored steps rest
    | none => dropBlanks t

/-- What follows the end of a line, which blanks and a comment may precede. -/
def afterLine? (t : Text) : Option Text :=
  match dropComment (dropBlanks t) with
  | [] => some []
  | t => afterNewline? t

/-! ### Keys -/

/-- Characters of a key without quotes. -/
def isBareChar (c : Char) : Bool := c.isAlphanum || c = '_' || c = '-'

/-- One part of a key: quoted on one line, or bare. -/
def readPart : Text → Option (Text × Text)
  | '"' :: rest => Quoted.readBasic [] rest
  | '\'' :: rest => Quoted.readLiteral [] rest
  | t =>
    let name := t.takeWhile isBareChar
    if name.isEmpty then none else some (name, t.dropWhile isBareChar)

/-- A key of so many parts at most: parts with points between, and blanks around each. -/
def readParts : Nat → Text → Option (List Text × Text)
  | 0, _ => none
  | most + 1, t => do
    let (part, t) ← readPart (dropBlanks t)
    match dropBlanks t with
    | '.' :: t => (readParts most t).map fun (parts, t) => (part :: parts, t)
    | t => some ([part], t)

/-- The most parts of a key, and the most containers inside one another. -/
def nesting : Nat := 79

/-- A key. -/
def readKey (t : Text) : Option (List Text × Text) := readParts nesting t

/-! ### Values -/

/-- Characters of a word. -/
def isWordChar (c : Char) : Bool :=
  !(c = ' ' || c = '\t' || c = '\n' || c = '\r' || c = '#' || c = ',' || c = ']' || c = '\x7d')

/-- A value that is a word.  A date may be followed by a blank and a time. -/
def readWord (t : Text) : Option (Value × Text) :=
  let word := t.takeWhile isWordChar
  let rest := t.dropWhile isWordChar
  let single := (Value.ofWord? word).map (·, rest)
  match rest with
  | ' ' :: more =>
    let time := more.takeWhile isWordChar
    if isDate word && time[2]? = some ':' then
      (Value.ofWord? (word ++ ' ' :: time)).map (·, more.dropWhile isWordChar)
    else single
  | _ => single

/-- The items of an array, up to its end. -/
def readItems (item : Text → Option (Value × Text)) (found : List Value) :
    Nat → Text → Option (List Value × Text)
  | 0, _ => none
  | steps + 1, t =>
    match dropIgnored steps t with
    | ']' :: rest => some (found.reverse, rest)
    | t => do
      let (v, t) ← item t
      match dropIgnored steps t with
      | ',' :: rest => readItems item (v :: found) steps rest
      | ']' :: rest => some ((v :: found).reverse, rest)
      | _ => none

/-- A key, an equals sign and a value. -/
def readPair (item : Text → Option (Value × Text)) (t : Text) :
    Option (List Text × Value × Text) := do
  let (path, t) ← readKey t
  match t with
  | '=' :: t => (item (dropBlanks t)).map fun (v, t) => (path, v, t)
  | _ => none

/-- The pairs of a table on one line, up to its end; the last has no comma after it. -/
def readPairs (item : Text → Option (Value × Text)) (es : Entries) :
    Nat → Text → Option (Entries × Text)
  | 0, _ => none
  | steps + 1, t => do
    let (path, v, t) ← readPair item t
    let es ← Node.assign es path v
    match dropBlanks t with
    | ',' :: rest => readPairs item es steps rest
    | '\x7d' :: rest => some (es, rest)
    | _ => none

/-- A table on one line, after its opening brace. -/
def readInline (item : Text → Option (Value × Text)) (steps : Nat) (t : Text) :
    Option (Value × Text) :=
  match dropBlanks t with
  | '\x7d' :: rest => some (.table [], rest)
  | t => (readPairs item [] steps t).map fun (es, t) => (.table (Node.toEntries es), t)

/-- A value with at most `depth` containers inside one another. -/
def readValue (steps depth : Nat) (t : Text) : Option (Value × Text) :=
  match depth, t with
  | _, '"' :: _ => (Quoted.read t).map fun (s, t) => (.str s, t)
  | _, '\'' :: _ => (Quoted.read t).map fun (s, t) => (.str s, t)
  | depth + 1, '[' :: rest =>
    (readItems (readValue steps depth) [] steps rest).map fun (vs, t) => (.arr vs, t)
  | depth + 1, '\x7b' :: rest => readInline (readValue steps depth) steps rest
  | _, t => readWord t

/-! ### Documents -/

/-- A document being read: its root table and the path of the last header. -/
structure Draft where
  root : Entries := []
  header : List Text := []
  deriving Repr, Inhabited

/-- A header after its opening brackets: a key, as many closing ones, and the end of the line. -/
def readHeader (closing : Text) (t : Text) : Option (List Text × Text) := do
  let (path, t) ← readKey t
  if closing.isPrefixOf t then (afterLine? (t.drop closing.length)).map (path, ·) else none

/-- One line that is not empty: a header, or a key with its value. -/
def readEntry (d : Draft) (steps : Nat) (t : Text) : Option (Draft × Text) :=
  match t with
  | '[' :: '[' :: t => do
    let (path, t) ← readHeader [']', ']'] t
    some (⟨← Node.pushTable d.root path, path⟩, t)
  | '[' :: t => do
    let (path, t) ← readHeader [']'] t
    some (⟨← Node.define d.root path, path⟩, t)
  | t => do
    let (path, v, t) ← readPair (readValue steps nesting) t
    some ({ d with root := ← Node.assignIn d.root d.header path v }, ← afterLine? t)

/-- The lines of a document. -/
def readLines (d : Draft) : Nat → Text → Option Draft
  | 0, _ => none
  | steps + 1, t =>
    match dropBlanks t with
    | [] => some d
    | t =>
      match afterLine? t with
      | some rest => readLines d steps rest
      | none => do
        let (d, rest) ← readEntry d steps t
        readLines d steps rest

/-- A document, after an optional byte order mark. -/
def readDocument (t : Text) : Option (List (Text × Value)) :=
  let t := match t with
    | '\uFEFF' :: t => t
    | t => t
  (readLines {} (t.length + 1) t).map fun d => Node.toEntries d.root

end TermSession.Toml
