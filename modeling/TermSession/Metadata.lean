import TermSession.Backend.Memory
import TermSession.Terminal.Decoder

/-!
# Metadata from the output stream

Programs change metadata through two operating system commands:

* 9283, `setmeta;[id;]` and a JSON object: merges the object into the metadata of the session, or
  of the object that an opaque id stands for;
* 7, a path with or without `file://` and an authority: reports the working directory.

`MetaEffect.ofCommand?` reads a command; `Backend.apply` carries the effect out.
-/

namespace TermSession

/-- Whose metadata a patch changes. -/
inductive MetaTarget where
  | session
  | registered (id : Text)
  deriving DecidableEq, Repr, Inhabited

/-- A patch with its target. -/
structure MetaEffect where
  target : MetaTarget
  patch : Json.Object
  deriving Repr, Inhabited, BEq

/-- White space of any script. -/
def Text.isSpace (c : Char) : Bool :=
  inRanges [(0x9, 0xD), (0x20, 0x20), (0x85, 0x85), (0xA0, 0xA0), (0x1680, 0x1680),
    (0x2000, 0x200A), (0x2028, 0x2029), (0x202F, 0x202F), (0x205F, 0x205F), (0x3000, 0x3000)]
    c.toNat

/-- What follows `first` at the front of a text. -/
def Text.after? (first t : Text) : Option Text :=
  if first.isPrefixOf t then some (t.drop first.length) else none

namespace MetaEffect

/-- The member that reports the working directory. -/
def directoryKey : Text := "cmd:cwd".toList

/-- The object a text holds. -/
def patch? (t : Text) : Option Json.Object :=
  match Json.Value.read? t with
  | some (.obj members) => some members
  | _ => none

/-- Reads what follows `setmeta;`.  Semicolons may also stand inside the object, so an id is split
off only where the object does not start at once. -/
def ofAssignment? (t : Text) : Option MetaEffect :=
  if (t.dropWhile Text.isSpace).head? = some '\x7b' then (patch? t).map (⟨.session, ·⟩)
  else
    match Text.splitOnce ';' t with
    | some (id, t) => (patch? t).map (⟨if id.isEmpty then .session else .registered id, ·⟩)
    | none => none

/-- Reads the payload of command 9283. -/
def ofSetMeta? (payload : Text) : Option MetaEffect :=
  match Text.splitOnce ';' payload with
  | some (command, rest) => if command = "setmeta".toList then ofAssignment? rest else none
  | none => none

/-- The path of a working directory report: a file URL loses its scheme and authority. -/
def path? (payload : Text) : Option Text :=
  match Text.after? "file://".toList payload with
  | some rest =>
    match rest.dropWhile (· ≠ '/') with
    | [] => none
    | path => some path
  | none => if payload.isEmpty then none else some payload

/-- Reads the payload of command 7. -/
def ofDirectory? (payload : Text) : Option MetaEffect :=
  (path? payload).map fun path => ⟨.session, [(directoryKey, .str path)]⟩

/-- The effect of an operating system command, if it has one. -/
def ofCommand? (c : OscCommand) : Option MetaEffect :=
  if c.code = 9283 then ofSetMeta? c.payload
  else if c.code = 7 then ofDirectory? c.payload
  else none

/-- The effect of a command in a session.  Commands take effect when they are new; those read again
from history, before the session is loaded, do not. -/
def route? (c : OscCommand) (loaded : Bool) : Option MetaEffect :=
  if loaded then ofCommand? c else none

end MetaEffect

namespace Backend

/-- The object that an effect on a session changes. -/
def target? (b : Backend) (session : Text) : MetaTarget → Option ObjectRef
  | .session => some (.block session)
  | .registered id =>
    match b.resolveIds [id] with
    | .ok found => (found.find? fun e => e.1 = id).map Prod.snd
    | .error _ => none

/-- Carries an effect out.  One that fails is not tried again. -/
def apply (b : Backend) (session : Text) (e : MetaEffect) : Backend :=
  match b.target? session e.target with
  | some ref => (b.updateMeta ref e.patch).2
  | none => b

/-- Carries out the effects of commands in order; gives how many there were. -/
def dispatch (b : Backend) (session : Text) (commands : List OscCommand) (loaded : Bool) :
    Nat × Backend :=
  let effects := commands.filterMap (MetaEffect.route? · loaded)
  (effects.length, effects.foldl (·.apply session ·) b)

end Backend

end TermSession
