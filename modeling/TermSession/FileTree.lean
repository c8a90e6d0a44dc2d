import TermSession.Text.Utf8

/-!
# File trees

Files and directories by path, and the reading of a file by the text of its path.

* `FileTree.entry?`: what stands at a place, a list of names from the root;
* `FileTree.walk`: following the parts of a path from a place;
* `FileTree.read`: the content of a file, or why there is none.
-/

namespace TermSession

/-- Why a file cannot be read. -/
inductive ReadError where
  | missing
  | notDirectory
  | isDirectory
  | nameTooLong
  | other (reason : Text)
  deriving DecidableEq, Repr, Inhabited

namespace ReadError

/-- The message of an error. -/
def message : ReadError → Text
  | missing => "No such file or directory (os error 2)".toList
  | notDirectory => "Not a directory (os error 20)".toList
  | isDirectory => "Is a directory (os error 21)".toList
  | nameTooLong => "File name too long (os error 36)".toList
  | other reason => reason

end ReadError

/-- A place in a file tree: the names on the way from the root. -/
abbrev Place := List Text

/-- What stands at a place. -/
inductive FileEntry where
  | file (content : List UInt8)
  | directory
  deriving DecidableEq, Repr, Inhabited

/-- A file tree with a working directory.  Every place above a file or a listed directory is a
directory. -/
structure FileTree where
  files : List (Place × List UInt8) := []
  directories : List Place := []
  /-- Where paths start that do not start at the root. -/
  current : Place := []
  deriving Repr, Inhabited

namespace FileTree

/-- The most bytes in a name. -/
def maxName : Nat := 255

/-- The most bytes in a path. -/
def maxPath : Nat := 4095

/-- Is the place on the way to another, or the other itself? -/
def holds (t : FileTree) (place : Place) : Bool :=
  (t.current :: t.directories ++ t.files.map Prod.fst).any place.isPrefixOf

/-- What stands at a place.  A file counts before a directory. -/
def entry? (t : FileTree) (place : Place) : Option FileEntry :=
  match t.files.find? fun f => f.1 = place with
  | some (_, content) => some (.file content)
  | none => if t.holds place then some .directory else none

/-- The parts of a path, between its slashes. -/
def parts : Text → List Text
  | [] => [[]]
  | c :: rest =>
    if c = '/' then [] :: parts rest
    else
      match parts rest with
      | [] => [[c]]
      | name :: names => (c :: name) :: names

/-- Where one part of a path leads from a directory.  The root is above itself. -/
def advance (place : Place) (name : Text) : Place :=
  if name.isEmpty || name = ['.'] then place
  else if name = ['.', '.'] then place.dropLast
  else place ++ [name]

/-- Follows the parts of a path.  Even a part that leads nowhere else needs a directory. -/
def walk (t : FileTree) (place : Place) : List Text → Except ReadError FileEntry
  | [] =>
    match t.entry? place with
    | some e => .ok e
    | none => .error .missing
  | name :: names =>
    match t.entry? place with
    | none => .error .missing
    | some (.file _) => .error .notDirectory
    | some .directory =>
      if maxName < (Utf8.encode name).length then .error .nameTooLong
      else t.walk (advance place name) names

/-- What stands at the end of a path. -/
def resolve (t : FileTree) (path : Text) : Except ReadError FileEntry :=
  if path.isEmpty then .error .missing
  else if maxPath < (Utf8.encode path).length then .error .nameTooLong
  else t.walk (if path.head? = some '/' then [] else t.current) (parts path)

/-- The content of a file. -/
def read (t : FileTree) (path : Text) : Except ReadError (List UInt8) :=
  match t.resolve path with
  | .ok (.file content) => .ok content
  | .ok .directory => .error .isDirectory
  | .error e => .error e

end FileTree

end TermSession
