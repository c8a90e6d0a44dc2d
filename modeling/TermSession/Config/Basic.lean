import TermSession.Input.DuplicateFilter
import TermSession.Platform
import TermSession.SnapshotTimer

/-!
# Configuration

The settings of a session, with their defaults.  All times are in milliseconds.
-/

namespace TermSession

/-- Which platform's chords to use. -/
inductive PlatformSetting where
  | auto
  | macOS
  | linux
  | windows
  deriving DecidableEq, Repr, Inhabited

namespace PlatformSetting

/-- The platform meant; `auto` is the one this program runs on. -/
def resolve : PlatformSetting → Platform
  | auto => .current
  | macOS => .macOS
  | linux => .linux
  | windows => .windows

/-- The setting's name. -/
def name : PlatformSetting → String
  | auto => "auto"
  | macOS => "macos"
  | linux => "linux"
  | windows => "windows"

/-- The setting with a name. -/
def ofName? (t : Text) : Option PlatformSetting :=
  [auto, macOS, linux, windows].find? fun s => s.name.toList = t

end PlatformSetting

/-- Settings for keyboard and input method. -/
structure InputSettings where
  filter : FilterSettings := {}
  /-- How long after a paste its text may still come. -/
  pasteWindow : Nat := 30
  deriving DecidableEq, Repr, Inhabited

/-- Settings for resizing. -/
structure ResizeSettings where
  debounce : Nat := 50
  deriving DecidableEq, Repr, Inhabited

/-- The settings of a session. -/
structure Config where
  platform : PlatformSetting := .auto
  input : InputSettings := {}
  snapshots : SnapshotSettings := {}
  resize : ResizeSettings := {}
  deriving DecidableEq, Repr, Inhabited

end TermSession
