import TermSession.Keyboard.Key

/-!
# Editing chords

Chords that stand for operations of a line editor, and the keys that switch input methods.  A chord
is claimed only with exactly its modifiers; everything else is left to the plain key encoding.
-/

namespace TermSession

/-- Operations of a line editor. -/
inductive EditAction where
  | lineStart
  | lineEnd
  | deleteToLineStart
  | deleteToLineEnd
  | wordLeft
  | wordRight
  | deleteWordBackward
  | deleteWordForward
  | selectLine
  deriving DecidableEq, Repr, Inhabited

namespace EditAction

/-- Every action. -/
def all : List EditAction :=
  [lineStart, lineEnd, deleteToLineStart, deleteToLineEnd, wordLeft, wordRight,
    deleteWordBackward, deleteWordForward, selectLine]

/-- The action's name. -/
def name : EditAction → String
  | lineStart => "LineStart"
  | lineEnd => "LineEnd"
  | deleteToLineStart => "DeleteToLineStart"
  | deleteToLineEnd => "DeleteToLineEnd"
  | wordLeft => "WordLeft"
  | wordRight => "WordRight"
  | deleteWordBackward => "DeleteWordBackward"
  | deleteWordForward => "DeleteWordForward"
  | selectLine => "SelectLine"

/-- What a line editor binds to the action: a control character, or a key with alt.  Selecting the
line goes to its start and then sends shift and end. -/
def bytes : EditAction → List UInt8
  | lineStart => [0x01]
  | lineEnd => [0x05]
  | deleteToLineStart => [0x15]
  | deleteToLineEnd => [0x0B]
  | wordLeft => [0x1B, 0x62]
  | wordRight => [0x1B, 0x66]
  | deleteWordBackward => [0x17]
  | deleteWordForward => [0x1B, 0x64]
  | selectLine => [0x01, 0x1B, 0x5B, 0x31, 0x3B, 0x32, 0x46]

end EditAction

/-- A key with its modifiers, and the action it stands for. -/
structure Chord where
  code : KeyCode
  modifiers : Modifiers
  action : EditAction
  deriving DecidableEq, Repr

namespace Chord

/-- The chords of one platform. -/
def ofPlatform : Platform → List Chord
  | .macOS =>
    [⟨.backspace, .onlySuper, .deleteToLineStart⟩,
      ⟨.delete, .onlySuper, .deleteToLineEnd⟩,
      ⟨.left, .onlyAlt, .wordLeft⟩,
      ⟨.right, .onlyAlt, .wordRight⟩,
      ⟨.backspace, .onlyAlt, .deleteWordBackward⟩,
      ⟨.delete, .onlyAlt, .deleteWordForward⟩,
      ⟨.left, .onlySuper, .lineStart⟩,
      ⟨.right, .onlySuper, .lineEnd⟩,
      ⟨.char 'a', .onlySuper, .selectLine⟩]
  | .linux | .windows =>
    [⟨.backspace, .onlyCtrl, .deleteWordBackward⟩,
      ⟨.delete, .onlyCtrl, .deleteWordForward⟩]

/-- The chords of every platform. -/
def universal : List Chord :=
  [⟨.char 'a', .onlyCtrl, .lineStart⟩,
    ⟨.char 'e', .onlyCtrl, .lineEnd⟩,
    ⟨.char 'u', .onlyCtrl, .deleteToLineStart⟩,
    ⟨.char 'k', .onlyCtrl, .deleteToLineEnd⟩,
    ⟨.char 'w', .onlyCtrl, .deleteWordBackward⟩,
    ⟨.home, .empty, .lineStart⟩,
    ⟨.endKey, .empty, .lineEnd⟩,
    ⟨.left, .onlyCtrl, .wordLeft⟩,
    ⟨.right, .onlyCtrl, .wordRight⟩]

/-- The action of a key with modifiers; a platform's own chords come first. -/
def find? (platform : Platform) (code : KeyCode) (modifiers : Modifiers) : Option EditAction :=
  ((ofPlatform platform ++ universal).find? fun chord =>
    chord.code = code.normalize && chord.modifiers = modifiers).map Chord.action

end Chord

namespace KeyEvent

/-- Does this key switch input methods?  Caps lock always does; space does with super, on macOS
also with control; on Windows so does a shift key held together with alt or control. -/
def isInputToggle (e : KeyEvent) (platform : Platform) : Bool :=
  let mods := e.modifiers
  match e.code with
  | .capsLock => true
  | .char ' ' =>
    mods = .onlySuper || (platform = .macOS && mods = .onlyCtrl)
  | .modifier key =>
    let rest := { mods with shift := false }
    platform = .windows && key != .other && (rest = .onlyAlt || rest = .onlyCtrl)
  | _ => false

end KeyEvent

/-- Where a key press goes. -/
inductive KeyRoute where
  /-- To the line editor, as the bytes of the action. -/
  | mapped (action : EditAction)
  /-- To the host's input method; a composition is abandoned. -/
  | inputToggle
  /-- To the plain key encoding. -/
  | unhandled
  deriving DecidableEq, Repr, Inhabited

/-- Where a key event goes.  Releases go nowhere. -/
def KeyEvent.route (e : KeyEvent) (platform : Platform) : KeyRoute :=
  if e.motion = .release then .unhandled
  else if e.isInputToggle platform then .inputToggle
  else
    match Chord.find? platform e.code e.modifiers with
    | some action => .mapped action
    | none => .unhandled

end TermSession
