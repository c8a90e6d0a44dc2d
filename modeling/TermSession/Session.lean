import TermSession.Config.Basic
import TermSession.Keyboard.Encoding
import TermSession.Metadata
import TermSession.Resizing
import TermSession.SnapshotTimer

/-!
# Sessions

A session joins a display to its backend.  Output notifications go through the stream to
the surface; keys and composed text go through the chords, the composition and the duplicate filter
to the shell; snapshots and resizes run off timers.  Time is passed in: the host asks for the next
deadline and polls.

* `Session`: the state; `Session.new`: subscribing;
* `Session.load`, `Session.processEvents`, `Session.flush`: output;
* `Session.pollTimers`, `Session.nextDeadline`, `Session.requestSize`, `Session.fit`: time and size;
* `Session.write`, `Session.key`, `Session.data`, `Session.paste`, …: input;
* `Session.dispose`: the end; every later call does nothing.

Each call that may talk to the backend takes and gives the backend.
-/

namespace TermSession

/-- The state of a session that renders to a display. -/
structure Session (σ : Type := Surface) where
  id : Text
  /-- Released when the session is disposed of. -/
  surface : Option σ
  receiver : Option Receiver
  output : OutputStream := {}
  timer : SnapshotTimer
  resizing : Resizing
  composition : Composition := .idle
  filter : DuplicateFilter
  platform : Platform
  /-- Is typed and pasted text also handed to other sessions? -/
  mirroring : Bool := false
  /-- The texts handed to other sessions. -/
  mirrored : Journal Text := {}
  pasteWindow : Nat
  pasteUntil : Option Nat := none
  disposed : Bool := false
  deriving DecidableEq, Repr, Inhabited

namespace Session

variable {σ : Type}

/-- A session subscribed to its output.  Nothing is rendered until it is loaded. -/
def new [Display σ] (id : Text) (surface : σ) (config : Config) (b : Backend) :
    Session σ × Backend :=
  let (receiver, b) := b.subscribe id
  ({ id
     surface := some surface
     receiver := some receiver
     timer := { settings := config.snapshots }
     resizing := { debouncer := { delay := config.resize.debounce } }
     filter := { settings := config.input.filter }
     platform := config.platform.resolve
     pasteWindow := config.input.pasteWindow }, b)

/-- Is the history loaded? -/
def isLoaded (s : Session σ) : Bool := s.output.loaded

/-- The size of the surface, until it is released. -/
def size [Display σ] (s : Session σ) : Option Size := s.surface.map Display.size

/-- The modes that output has switched on. -/
def modes [Display σ] (s : Session σ) : Modes := (s.surface.map Display.modes).getD {}

/-- Puts a stream and a surface back. -/
def withRendering (s : Session σ) (r : Rendering σ) : Session σ :=
  { s with output := r.output, surface := some r.surface }

/-! ### Output -/

/-- Renders one notification and carries out the commands it completes. -/
def handleEvent [Display σ] (id : Text) :
    Rendering σ × Backend → LogEvent → Rendering σ × Backend
  | (r, b), event =>
    let (r, commands) := r.handle event
    (r, (b.dispatch id commands r.output.loaded).2)

/-- Processes the notifications that wait, in order; gives how many there were. -/
def processEvents [Display σ] (s : Session σ) (b : Backend) : Nat × Session σ × Backend :=
  match s.surface, s.receiver with
  | some surface, some receiver =>
    -- While it is written to, the surface belongs to the rendering alone.
    let s := { s with surface := none }
    let (events, b) := b.receiveAll receiver
    let (r, b) := events.foldl (handleEvent s.id) (⟨s.output, surface⟩, b)
    (events.length, s.withRendering r, b)
  | _, _ => (0, s, b)

/-- Loads the history of a session that is not loaded, and starts the idle timer. -/
def loadHistory [Display σ] (s : Session σ) (b : Backend) (now : Nat) : Session σ × Backend :=
  if s.isLoaded then (s, b)
  else
    match s.surface with
    | some surface =>
      let rendering : Rendering σ := ⟨s.output, surface⟩
      let (r, commands, b) := rendering.load b s.id s.timer.settings.kind
      let (_, b) := b.dispatch s.id commands true
      ({ s.withRendering r with timer := s.timer.start now }, b)
    | none => (s, b)

/-- Loads the session.  Notifications that wait are taken first, so that what they share with the
history is rendered once.  `meanwhile` is what happens to the backend between the two. -/
def load [Display σ] (s : Session σ) (b : Backend) (now : Nat)
    (meanwhile : Backend → Backend := fun b => b) : Session σ × Backend :=
  if s.disposed then (s, meanwhile b)
  else
    let (_, s, b) := s.processEvents b
    s.loadHistory (meanwhile b) now

/-- Saves a snapshot now, however little the new output; says whether it tried. -/
def flush [Display σ] (s : Session σ) (b : Backend) : Bool × Session σ × Backend :=
  match s.surface with
  | some surface =>
    let (tried, r, b) := s.timer.flush ⟨s.output, surface⟩ b s.id true
    (tried, s.withRendering r, b)
  | none => (false, s, b)

/-! ### Time and size -/

/-- Forgets a paste whose window is over. -/
def expirePaste (s : Session σ) (now : Nat) : Session σ :=
  if s.pasteUntil.any (· ≤ now) then { s with pasteUntil := none } else s

/-- Applies the size asked for if it is due. -/
def pollResizing [Display σ] (s : Session σ) (b : Backend) (now : Nat) : Session σ × Backend :=
  match s.surface with
  | some surface =>
    let (_, resizing, surface, b) := s.resizing.poll now surface b s.id
    ({ s with resizing, surface := some surface }, b)
  | none => (s, b)

/-- Runs the idle tick if it is due. -/
def pollSnapshots [Display σ] (s : Session σ) (b : Backend) (now : Nat) : Session σ × Backend :=
  match s.surface with
  | some surface =>
    let (_, timer, r, b) := s.timer.poll now ⟨s.output, surface⟩ b s.id
    ({ s.withRendering r with timer }, b)
  | none => (s, b)

/-- Runs every timer that is due. -/
def pollTimers [Display σ] (s : Session σ) (b : Backend) (now : Nat) : Session σ × Backend :=
  let (s, b) := (s.expirePaste now).pollResizing b now
  s.pollSnapshots b now

/-- The earliest time at which a timer is due. -/
def nextDeadline (s : Session σ) : Option Nat :=
  ([s.resizing.deadline, s.timer.nextTick, s.pasteUntil].filterMap fun d => d).min?

/-- Asks for a size, to be applied when no other has been asked for in a while. -/
def requestSize (s : Session σ) (size : Size) (now : Nat) : Session σ :=
  if s.disposed then s else { s with resizing := s.resizing.request size now }

/-- Applies a size at once. -/
def fit [Display σ] (s : Session σ) (size : Size) (b : Backend) :
    Option ResizeOutcome × Session σ × Backend :=
  match s.surface with
  | some surface =>
    let (outcome, resizing, surface, b) := s.resizing.apply size surface b s.id
    (some outcome, { s with resizing, surface := some surface }, b)
  | none => (none, s, b)

/-! ### Input -/

/-- Sends bytes to the shell; says whether they were taken. -/
def send (s : Session σ) (b : Backend) (data : List UInt8) : Bool × Backend :=
  let (result, b) := b.sendInput s.id data
  (result.isOk, b)

/-- Sends text that the filter lets through.  Text before loading is ignored. -/
def submit (s : Session σ) (b : Backend) (t : Text) (now : Nat) : Bool × Session σ × Backend :=
  if t.isEmpty || !s.isLoaded then (false, s, b)
  else
    match s.filter.check t now s.composition with
    | (.forward, filter) =>
      let (sent, b) := s.send b (Utf8.encode t)
      (sent, { s with filter }, b)
    | (_, filter) => (false, { s with filter }, b)

/-- Hands text to other sessions. -/
def mirror (s : Session σ) (t : Text) : Session σ :=
  if s.mirroring then { s with mirrored := s.mirrored.add t } else s

/-- Sends bytes as they are, except during a composition. -/
def write (s : Session σ) (b : Backend) (data : List UInt8) : Bool × Backend :=
  if s.disposed || data.isEmpty || s.composition.isComposing then (false, b) else s.send b data

/-- Gives a composition up; the filter starts anew. -/
def forceIdle (s : Session σ) : Session σ :=
  { s with composition := .idle, filter := s.filter.reset }

/-- A key that no chord claims: its text passes the filter, and is mirrored if it was sent.
During a composition keys belong to the input method. -/
def typeKey [Display σ] (s : Session σ) (b : Backend) (e : KeyEvent) (now : Nat) :
    Bool × Session σ × Backend :=
  if s.composition.isComposing then (false, s, b)
  else
    match e.encode s.modes with
    | none => (false, s, b)
    | some bytes =>
      match Utf8.read? bytes with
      | some t =>
        let (sent, s, b) := s.submit b t now
        (sent, if sent then s.mirror t else s, b)
      | none =>
        if s.isLoaded then
          let (sent, b) := s.send b bytes
          (sent, s, b)
        else (false, s, b)

/-- A key event; says whether anything was sent. -/
def key [Display σ] (s : Session σ) (b : Backend) (e : KeyEvent) (now : Nat) :
    Bool × Session σ × Backend :=
  if s.disposed || e.motion = .release then (false, s, b)
  else
    match e.route s.platform with
    | .inputToggle => (false, s.forceIdle, b)
    | .mapped action =>
      if s.composition.isComposing || !s.isLoaded then (false, s, b)
      else
        let (sent, b) := s.send b action.bytes
        (sent, s, b)
    | .unhandled => s.typeKey b e now

/-- Text from the surface.  Within the window after a paste it is mirrored. -/
def data (s : Session σ) (b : Backend) (t : Text) (now : Nat) : Bool × Session σ × Backend :=
  if s.disposed then (false, s, b)
  else
    let (sent, s, b) := s.submit b t now
    if sent && s.pasteUntil.any (now < ·) then
      (sent, { s with pasteUntil := none }.mirror t, b)
    else (sent, s, b)

/-- Pasted text. -/
def paste (s : Session σ) (b : Backend) (t : Text) (now : Nat) : Bool × Session σ × Backend :=
  if s.disposed then (false, s, b)
  else
    let (sent, s, b) := { s with pasteUntil := some (now + s.pasteWindow) }.data b t now
    (sent, if sent then s else { s with pasteUntil := none }, b)

/-- A composition starts. -/
def compositionStart (s : Session σ) : Session σ :=
  if s.disposed then s else { s with composition := s.composition.start }

/-- The text of a composition changes. -/
def compositionUpdate (s : Session σ) (t : Text) : Session σ :=
  if s.disposed then s else { s with composition := s.composition.update t }

/-- A composition ends; the committed text is sent once. -/
def compositionEnd (s : Session σ) (b : Backend) (t : Text) (now : Nat) :
    Bool × Session σ × Backend :=
  if s.disposed then (false, s, b)
  else
    let s := { s with composition := .idle }
    match Composition.committed t with
    | some t => s.submit b t now
    | none => (false, s, b)

/-- The surface is no longer in focus. -/
def focusLost (s : Session σ) : Session σ := if s.disposed then s else s.forceIdle

/-- Switches the duplicate filter. -/
def setFilterEnabled (s : Session σ) (on : Bool) : Session σ :=
  { s with filter := s.filter.setEnabled on }

/-- Starts or stops handing text to other sessions. -/
def setMirroring (s : Session σ) (on : Bool) : Session σ := { s with mirroring := on }

/-! ### The end -/

/-- Stops the timers, unsubscribes and releases the surface. -/
def dispose (s : Session σ) (b : Backend) : Session σ × Backend :=
  if s.disposed then (s, b)
  else
    let b := match s.receiver with
      | some receiver => b.unsubscribe receiver
      | none => b
    ({ s.forceIdle with
       disposed := true
       timer := s.timer.cancel
       resizing := s.resizing.cancel
       pasteUntil := none
       receiver := none
       surface := none
       output := s.output.dispose
       mirroring := false }, b)

end Session

end TermSession
