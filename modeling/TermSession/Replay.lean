import TermSession.Session
import TermSession.Text.Quoted

/-!
# Replaying a log

A recorded log goes through a session piece by piece, the way live output comes; then a second
session loads from the snapshot that the first one leaves.

* `pieces`: a list cut into pieces of equal length;
* `Replay`: a session with its backend, and the steps of a replay;
* `Replay.live`, `Replay.again`: the first session after the whole log, and the second one;
* `Replay.run`: both, and what they show;
* `flatten_pieces`: the pieces of a list make up the list.
-/

namespace TermSession

/-- The pieces of a list, after those already cut off (newest first). -/
def piecesAfter (found : List (List α)) (n : Nat) : List α → List (List α)
  | [] => found.reverse
  | a :: l => piecesAfter ((a :: l.take (n - 1)) :: found) n (l.drop (n - 1))
termination_by l => l.length
decreasing_by simp only [List.length_drop, List.length_cons]; omega

/-- A list in pieces of `n` elements, the last of which may be shorter; a piece is never empty. -/
def pieces (n : Nat) (l : List α) : List (List α) := piecesAfter [] n l

theorem flatten_piecesAfter (found : List (List α)) (n : Nat) (l : List α) :
    (piecesAfter found n l).flatten = found.reverse.flatten ++ l := by
  fun_induction piecesAfter found n l with
  | case1 => simp
  | case2 found a l ih => simp [ih]

/-- The pieces of a list make up the list. -/
theorem flatten_pieces (n : Nat) (l : List α) : (pieces n l).flatten = l := by
  simp [pieces, flatten_piecesAfter]

/-- A session with its backend during a replay. -/
structure Replay where
  session : Session
  backend : Backend
  deriving Inhabited

/-- What a replay comes to.  The texts are what the sessions show. -/
inductive ReplayResult where
  /-- An empty log leaves no snapshot. -/
  | empty (live : Text)
  /-- There was output, but no snapshot of it. -/
  | unsaved (live : Text)
  | reloaded (live again : Text)
  deriving DecidableEq, Repr, Inhabited

namespace Replay

/-- The session that is replayed. -/
def sessionId : Text := "replay".toList

/-- A session over a backend. -/
def new (size : Size) (config : Config) (b : Backend) : Replay :=
  let (session, backend) := Session.new sessionId (.new size) config b
  { session, backend }

/-- Tells the backend the size. -/
def fit (r : Replay) (size : Size) : Replay :=
  let (_, session, backend) := r.session.fit size r.backend
  { session, backend }

/-- Loads the history. -/
def load (r : Replay) (now : Nat) : Replay :=
  let (session, backend) := r.session.load r.backend now
  { session, backend }

/-- One piece of output: it goes into the log and is rendered, and the timers run. -/
def feed (r : Replay) (data : List UInt8) (now : Nat) : Replay :=
  let (_, session, backend) := r.session.processEvents (r.backend.append sessionId data)
  let (session, backend) := session.pollTimers backend now
  { session, backend }

/-- Saves a snapshot of what is rendered. -/
def flush (r : Replay) : Replay :=
  let (_, session, backend) := r.session.flush r.backend
  { session, backend }

/-- Ends the session. -/
def dispose (r : Replay) : Replay :=
  let (session, backend) := r.session.dispose r.backend
  { session, backend }

/-- Feeds pieces in order; `clock` tells the time of each. -/
def feedAll (r : Replay) (clock : Nat → Nat) (data : List (List UInt8)) : Replay :=
  data.zipIdx.foldl (fun r p => r.feed p.1 (clock p.2)) r

/-- The first session, after the whole log. -/
def live (size : Size) (config : Config) (chunk : Nat) (clock : Nat → Nat) (log : List UInt8) :
    Replay :=
  ((((new size config {}).fit size).load (clock 0)).feedAll (clock ∘ (· + 1))
    (pieces chunk log)).flush

/-- The second session, loaded from what a first one leaves. -/
def again (size : Size) (config : Config) (b : Backend) (now : Nat) : Replay :=
  (new size config b).load now

/-! ### What is shown -/

/-- Lines, each ended by a line feed. -/
def unlines (lines : List Text) : Text := lines.flatMap (· ++ ['\n'])

/-- Lines without the empty ones at the end. -/
def trimEnd (lines : List Text) : List Text := (lines.reverse.dropWhile List.isEmpty).reverse

/-- The line above a screen. -/
def heading (label : String) (surface : Surface) (offset : Nat) : Text :=
  "== ".toList ++ label.toList ++ " (".toList ++ surface.size.render ++ ", offset ".toList
    ++ Decimal.render offset ++ ", title ".toList ++ Text.quote surface.screen.title ++ [')']

/-- The screen of a session under its heading; nothing once the surface is released. -/
def shown (r : Replay) (label : String) : Text :=
  match r.session.surface with
  | some surface =>
    unlines (heading label surface r.session.output.offset :: trimEnd surface.screen.screenLines)
  | none => []

/-- Replays a log in pieces of `chunk` bytes. -/
def run (size : Size) (config : Config) (chunk : Nat) (clock : Nat → Nat) (log : List UInt8) :
    ReplayResult :=
  let first := live size config chunk clock log
  let left := first.dispose.backend
  match left.snapshot? sessionId config.snapshots.kind with
  | some _ =>
    .reloaded (first.shown "live")
      ((again size config left (clock ((pieces chunk log).length + 1))).shown "reloaded")
  | none => if log.isEmpty then .empty (first.shown "live") else .unsaved (first.shown "live")

end Replay

end TermSession
