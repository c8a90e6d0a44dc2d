import TermSession.Json.Value
import TermSession.Snapshot

/-!
# What a session and its backend exchange

* `ObjectRef`: references to the objects that carry metadata;
* `LogOp`, `LogEvent`: changes of an output log;
* `Operation`, `BackendError`: the calls that may fail, and how.
-/

namespace TermSession

/-- A stable reference to an object. -/
structure ObjectRef where
  otype : Text
  oid : Text
  deriving DecidableEq, Repr, Inhabited

namespace ObjectRef

/-- The reference of a session itself. -/
def block (session : Text) : ObjectRef := ⟨"block".toList, session⟩

/-- Type and id with a colon between. -/
def render (r : ObjectRef) : Text := r.otype ++ [':'] ++ r.oid

end ObjectRef

/-- The kinds of change of an output log. -/
inductive LogOp where
  | append
  | truncate
  deriving DecidableEq, Repr, Inhabited

/-- A notification about an output log. -/
inductive LogEvent where
  /-- Bytes were added at an offset. -/
  | append (offset : Nat) (data : List UInt8)
  /-- The log was cut to a size. -/
  | truncate (offset : Nat)
  deriving DecidableEq, Repr, Inhabited

namespace LogEvent

/-- The kind of change. -/
def op : LogEvent → LogOp
  | append _ _ => .append
  | truncate _ => .truncate

end LogEvent

/-- The calls that can be made to fail. -/
inductive Operation where
  | fetchFile
  | fetchCache
  | saveCache
  | sendInput
  | resync
  | resolveIds
  | updateMeta
  deriving DecidableEq, Repr, Inhabited

namespace Operation

/-- The operation's name. -/
def name : Operation → String
  | fetchFile => "FetchFile"
  | fetchCache => "FetchCache"
  | saveCache => "SaveCache"
  | sendInput => "SendInput"
  | resync => "Resync"
  | resolveIds => "ResolveIds"
  | updateMeta => "UpdateMeta"

end Operation

/-- Why a call failed. -/
inductive BackendError where
  | notFound (name : Text)
  /-- No answer within so many milliseconds. -/
  | timeout (ms : Nat)
  | rejected (reason : Text)
  | io (reason : Text)
  | closed
  deriving DecidableEq, Repr, Inhabited

/-- A time span: whole milliseconds below a second, else seconds with the fraction's trailing
zeros left out. -/
def renderMillis (ms : Nat) : Text :=
  if ms = 0 then "0ns".toList
  else if ms < 1000 then Decimal.render ms ++ "ms".toList
  else
    let digits := Decimal.render (1000 + ms % 1000)
    let fraction := ((digits.drop 1).reverse.dropWhile (· = '0')).reverse
    Decimal.render (ms / 1000)
      ++ (if fraction.isEmpty then [] else '.' :: fraction) ++ ['s']

namespace BackendError

/-- The kind of error. -/
def kind : BackendError → String
  | notFound _ => "NotFound"
  | timeout _ => "Timeout"
  | rejected _ => "Rejected"
  | io _ => "Io"
  | closed => "Closed"

/-- The error in words. -/
def message : BackendError → Text
  | notFound name => "not found: ".toList ++ name
  | timeout ms => "request timed out after ".toList ++ renderMillis ms
  | rejected reason => "request rejected: ".toList ++ reason
  | io reason => "I/O error: ".toList ++ reason
  | closed => "backend connection closed".toList

end BackendError

end TermSession
