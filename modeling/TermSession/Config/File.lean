import TermSession.Config.Basic
import TermSession.Text.Utf8
import TermSession.Toml.Reader

/-!
# The configuration file

A configuration is kept as TOML in a file of the user's home directory.  Settings that the file does
not give have their defaults, and keys that mean nothing are skipped.

* `Config.read?`, `Config.write?`: a configuration from its text, and its text;
* `ConfigHome`: what there is of a home directory and the file;
* `Config.load`, `Config.save`: reading and replacing the file;
* `Config.directory`, `Config.path`: where the file is.
-/

namespace TermSession

open Toml (Value)

/-! ### Reading -/

namespace Toml.Value

/-- The fields of a structure, by name: `none` for one that is not given.  They stand in a table,
or in order in an array; a date has none of them. -/
def fields? (names : List String) : Value → Option (List (Option Value))
  | .table entries => some (names.map (find? entries))
  | .arr items => some ((names.zipIdx).map fun n => items[n.2]?)
  | .date _ => some (names.map fun _ => none)
  | _ => none

/-- A truth value. -/
def bool? : Value → Option Bool
  | .bool b => some b
  | _ => none

/-- A natural number. -/
def nat? : Value → Option Nat
  | .int n => if 0 ≤ n then some n.toNat else none
  | _ => none

/-- A text. -/
def text? : Value → Option Text
  | .str t => some t
  | _ => none

/-- Has the table or array no entry? -/
def isEmptyContainer : Value → Bool
  | .arr items => items.isEmpty
  | .table entries => entries.isEmpty
  | _ => false

end Toml.Value

/-- A setting as given, or its default. -/
def settingOr (default : α) (read : Value → Option α) : Option Value → Option α
  | none => some default
  | some v => read v

/-- A platform: its name, or a table whose only key is the name and holds nothing. -/
def PlatformSetting.ofToml? : Value → Option PlatformSetting
  | .str t => ofName? t
  | .table [(t, v)] => if v.isEmptyContainer then ofName? t else none
  | _ => none

/-- Input settings from a value. -/
def InputSettings.ofToml? (v : Value) : Option InputSettings :=
  let d : InputSettings := {}
  match v.fields? ["filter_enabled", "dedup_short_window_ms", "dedup_alnum_window_ms",
      "dedup_horizon_ms", "paste_window_ms"] with
  | some [enabled, short, alnum, horizon, paste] => do
    let enabled ← settingOr d.filter.enabled Value.bool? enabled
    let shortWindow ← settingOr d.filter.shortWindow Value.nat? short
    let alnumWindow ← settingOr d.filter.alnumWindow Value.nat? alnum
    let horizon ← settingOr d.filter.horizon Value.nat? horizon
    let pasteWindow ← settingOr d.pasteWindow Value.nat? paste
    some { filter := { enabled, shortWindow, alnumWindow, horizon }, pasteWindow }
  | _ => none

/-- Snapshot settings from a value. -/
def SnapshotSettings.ofToml? (v : Value) : Option SnapshotSettings :=
  let d : SnapshotSettings := {}
  match v.fields? ["cache_min_bytes", "cache_idle_interval_ms", "cache_kind"] with
  | some [minBytes, interval, kind] => do
    let minBytes ← settingOr d.minBytes Value.nat? minBytes
    let interval ← settingOr d.interval Value.nat? interval
    let kind ← settingOr d.kind Value.text? kind
    some { minBytes, interval, kind }
  | _ => none

/-- Resize settings from a value. -/
def ResizeSettings.ofToml? (v : Value) : Option ResizeSettings :=
  let d : ResizeSettings := {}
  match v.fields? ["debounce_ms"] with
  | some [debounce] => do
    let debounce ← settingOr d.debounce Value.nat? debounce
    some { debounce }
  | _ => none

namespace Config

/-- A configuration from the root table of a document. -/
def ofEntries? (entries : List (Text × Value)) : Option Config := do
  let find := Value.find? entries
  let platform ← settingOr .auto PlatformSetting.ofToml? (find "platform")
  let input ← settingOr {} InputSettings.ofToml? (find "input")
  let snapshots ← settingOr {} SnapshotSettings.ofToml? (find "output")
  let resize ← settingOr {} ResizeSettings.ofToml? (find "resize")
  some { platform, input, snapshots, resize }

/-- A configuration from the text of a file. -/
def read? (t : Text) : Option Config := (Toml.readDocument t).bind ofEntries?

/-! ### Writing -/

/-- A line that gives a key its value. -/
def writeLine (key : String) (value : Text) : Text := key.toList ++ " = ".toList ++ value ++ ['\n']

/-- An empty line and a header. -/
def writeHeader (key : String) : Text := ['\n', '['] ++ key.toList ++ [']', '\n']

/-- A truth value. -/
def writeBool (b : Bool) : Text := (if b then "true" else "false").toList

/-- The numbers of a configuration. -/
def numbers (c : Config) : List Nat :=
  [c.input.filter.shortWindow, c.input.filter.alnumWindow, c.input.filter.horizon,
    c.input.pasteWindow, c.snapshots.minBytes, c.snapshots.interval, c.resize.debounce]

/-- The text of a configuration. -/
def write (c : Config) : Text :=
  writeLine "platform" (Toml.Quoted.write c.platform.name.toList)
    ++ writeHeader "input"
    ++ writeLine "filter_enabled" (writeBool c.input.filter.enabled)
    ++ writeLine "dedup_short_window_ms" (Decimal.render c.input.filter.shortWindow)
    ++ writeLine "dedup_alnum_window_ms" (Decimal.render c.input.filter.alnumWindow)
    ++ writeLine "dedup_horizon_ms" (Decimal.render c.input.filter.horizon)
    ++ writeLine "paste_window_ms" (Decimal.render c.input.pasteWindow)
    ++ writeHeader "output"
    ++ writeLine "cache_min_bytes" (Decimal.render c.snapshots.minBytes)
    ++ writeLine "cache_idle_interval_ms" (Decimal.render c.snapshots.interval)
    ++ writeLine "cache_kind" (Toml.Quoted.write c.snapshots.kind)
    ++ writeHeader "resize"
    ++ writeLine "debounce_ms" (Decimal.render c.resize.debounce)

/-- The text of a configuration whose numbers are in the range of TOML integers. -/
def write? (c : Config) : Option Text :=
  if c.numbers.all (· ≤ Toml.maxInt) then some c.write else none

end Config

/-! ### The file -/

/-- The configuration file. -/
inductive ConfigFile where
  | missing
  | directory
  | bytes (content : List UInt8)
  deriving DecidableEq, Repr, Inhabited

/-- The place of the configuration file. -/
inductive ConfigHome where
  /-- No home directory is known. -/
  | unknown
  /-- What should be the home directory, or the program's directory in it, is none. -/
  | notDirectory
  | directory (file : ConfigFile)
  deriving DecidableEq, Repr, Inhabited

/-- Why a configuration was not saved. -/
inductive SaveError where
  | noPath
  | serialize
  | write
  deriving DecidableEq, Repr, Inhabited

namespace SaveError

/-- The kind of error. -/
def kind : SaveError → String
  | noPath => "NoPath"
  | serialize => "Serialize"
  | write => "Write"

end SaveError

namespace Config

/-- The configuration in the file.  A file that is missing, cannot be read or is malformed gives the
defaults. -/
def load (home : ConfigHome) : Config :=
  match home with
  | .directory (.bytes content) => ((Utf8.read? content).bind read?).getD {}
  | _ => {}

/-- Writes a configuration to the file.  If it cannot be written as text the file stays. -/
def save (c : Config) (home : ConfigHome) : Except SaveError Unit × ConfigHome :=
  match home with
  | .unknown => (.error .noPath, home)
  | .notDirectory => (.error .write, home)
  | .directory file =>
    match c.write? with
    | none => (.error .serialize, home)
    | some t =>
      if file = .directory then (.error .write, home)
      else (.ok (), .directory (.bytes (Utf8.encode t)))

/-! ### Paths -/

/-- A name below a path. -/
def join (path name : Text) : Text :=
  if path.isEmpty || path.getLast? = some '/' then path ++ name else path ++ '/' :: name

/-- The home directory: the profile directory if there is one, else `HOME`. -/
def homeDirectory (profile home : Option Text) : Option Text := profile <|> home

/-- The name of the program's directory. -/
def directoryName : Text := ".termweave".toList

/-- The name of the configuration file. -/
def fileName : Text := "config.toml".toList

/-- The program's directory. -/
def directory (profile home : Option Text) : Option Text :=
  (homeDirectory profile home).map (join · directoryName)

/-- The path of the configuration file. -/
def path (profile home : Option Text) : Option Text :=
  (directory profile home).map (join · fileName)

end Config

end TermSession
