import TermSession.Config.File
import TermSession.FileTree
import TermSession.Replay

/-!
# The command line

The command replays a log and prints what the sessions show.

* `Command`: what the arguments ask for; `Command.read`: reading them;
* `ArgumentError`: what can be wrong with them;
* `Outcome`: the exit code and both outputs of a run; `Outcome.ofArguments`: a whole run;
* `FileTree.configHome`: the configuration file in a file tree.
-/

namespace TermSession

/-- The options that take a number. -/
inductive NumberOption where
  | cols
  | rows
  | chunk
  deriving DecidableEq, Repr, Inhabited

namespace NumberOption

/-- An option as it is written. -/
def name : NumberOption → Text
  | cols => "--cols".toList
  | rows => "--rows".toList
  | chunk => "--chunk".toList

/-- The option written so. -/
def ofName? (t : Text) : Option NumberOption := [cols, rows, chunk].find? fun o => o.name = t

/-- The largest number an option takes. -/
def bound : NumberOption → Nat
  | cols | rows => Decimal.maxU16
  | chunk => Decimal.maxU64

end NumberOption

/-- How to replay, and what: the standard input, or a file. -/
structure ReplayOptions where
  size : Size := ⟨24, 80⟩
  /-- Bytes in one piece of output. -/
  chunk : Nat := 4096
  file : Option Text := none
  deriving DecidableEq, Repr, Inhabited

namespace ReplayOptions

/-- Gives an option a number. -/
def set (o : ReplayOptions) (n : Nat) : NumberOption → ReplayOptions
  | .cols => { o with size.cols := n }
  | .rows => { o with size.rows := n }
  | .chunk => { o with chunk := n }

/-- Are all numbers positive? -/
def isPositive (o : ReplayOptions) : Bool := o.size.isPositive && 0 < o.chunk

end ReplayOptions

/-- What the arguments ask for. -/
inductive Command where
  | help
  | version
  | replay (options : ReplayOptions)
  deriving DecidableEq, Repr, Inhabited

/-- What is wrong with the arguments. -/
inductive ArgumentError where
  | missingValue (option : NumberOption)
  | invalidValue (option : NumberOption) (value : Text)
  | unknown (argument : Text)
  | secondFile
  | notPositive
  deriving DecidableEq, Repr, Inhabited

namespace ArgumentError

/-- The message of an error. -/
def message : ArgumentError → Text
  | missingValue option => "Missing value for ".toList ++ option.name
  | invalidValue option value =>
    "Invalid value for ".toList ++ option.name ++ ": ".toList ++ value
  | unknown argument =>
    "Unknown argument: ".toList ++ argument ++ ". Use -h for help.".toList
  | secondFile => "Only one input file can be given".toList
  | notPositive => "--cols, --rows and --chunk must be positive".toList

end ArgumentError

namespace Command

/-- Does an argument ask for help? -/
def isHelp (t : Text) : Bool := t = "-h".toList || t = "--help".toList

/-- Does an argument ask for the version? -/
def isVersion (t : Text) : Bool := t = "-v".toList || t = "--version".toList

/-- A hyphen alone stands for the standard input. -/
def stdinName : Text := ['-']

/-- Takes an argument that is a file. -/
def readFile (o : ReplayOptions) (t : Text) : Except ArgumentError ReplayOptions :=
  if o.file.isSome then .error .secondFile
  else .ok (if t = stdinName then o else { o with file := some t })

/-- Takes the value of an option. -/
def readNumber (o : ReplayOptions) (option : NumberOption) (value : Text) :
    Except ArgumentError ReplayOptions :=
  match Decimal.read? option.bound value with
  | some n => .ok (o.set n option)
  | none => .error (.invalidValue option value)

/-- Reads arguments from left to right.  Help and version end the reading, and so does the first
error; the numbers are compared with zero at the end. -/
def readFrom (o : ReplayOptions) : List Text → Except ArgumentError Command
  | [] => if o.isPositive then .ok (.replay o) else .error .notPositive
  | t :: rest =>
    if isHelp t then .ok .help
    else if isVersion t then .ok .version
    else
      match NumberOption.ofName? t with
      | some option =>
        match rest with
        | [] => .error (.missingValue option)
        | value :: rest => do readFrom (← readNumber o option value) rest
      | none =>
        if t.head? = some '-' && t ≠ stdinName then .error (.unknown t)
        else do readFrom (← readFile o t) rest

/-- Reads the arguments. -/
def read (arguments : List Text) : Except ArgumentError Command := readFrom {} arguments

end Command

/-! ### Runs -/

/-- What a run leaves: the exit code, the standard output and the standard error. -/
structure Outcome where
  code : Nat := 0
  output : Text := []
  messages : Text := []
  deriving DecidableEq, Repr, Inhabited

namespace Outcome

/-- The name and version of the program. -/
def versionLine : Text := "termweave 0.1.0".toList

/-- The help text, by lines. -/
def helpLines : List Text :=
  (versionLine ++ " - terminal session replay".toList) :: [
    "",
    "Usage: termweave [OPTIONS] [FILE]",
    "",
    "Replays FILE (or stdin) as backend output, saves a snapshot,",
    "reloads a second session from it and prints both screens.",
    "",
    "Options:",
    "  --cols <N>            Terminal width (default 80)",
    "  --rows <N>            Terminal height (default 24)",
    "  --chunk <N>           Bytes per output notification (default 4096)",
    "  -v, --version         Show version",
    "  -h, --help            Show this help",
    "",
    "Configuration: ~/.termweave/config.toml",
    "Log file:      ~/.termweave/termweave.log (level from RUST_LOG)"].map String.toList

/-- A run that failed for a reason. -/
def failure (reason : Text) : Outcome :=
  { code := 1, messages := "Error: ".toList ++ reason ++ ['\n'] }

/-- A run with wrong arguments. -/
def ofArgumentError (e : ArgumentError) : Outcome :=
  failure (e.message ++ "\nUse --help for usage information".toList)

/-- A run whose input could not be read. -/
def ofReadError (name : Text) (e : ReadError) : Outcome :=
  failure ("failed to read ".toList ++ name ++ "\n\nCaused by:\n    ".toList ++ e.message)

/-- What a replay prints.  An empty line stands between the screens. -/
def ofReplay : ReplayResult → Outcome
  | .empty live => { output := live }
  | .unsaved live => { failure "snapshot was not saved".toList with output := live }
  | .reloaded live again => { output := live ++ '\n' :: again }

/-- A replay of an input that may not be readable. -/
def ofOptions (o : ReplayOptions) (config : Config) (clock : Nat → Nat)
    (input : Except ReadError (List UInt8)) : Outcome :=
  match input with
  | .error e => ofReadError (o.file.getD "stdin".toList) e
  | .ok log => ofReplay (Replay.run o.size config o.chunk clock log)

/-- A run of the program.  `input` reads a file, or the standard input. -/
def ofArguments (arguments : List Text) (config : Config) (clock : Nat → Nat)
    (input : Option Text → Except ReadError (List UInt8)) : Outcome :=
  match Command.read arguments with
  | .error e => ofArgumentError e
  | .ok .help => { messages := Replay.unlines helpLines }
  | .ok .version => { messages := versionLine ++ ['\n'] }
  | .ok (.replay o) => ofOptions o config clock (input o.file)

end Outcome

/-- The configuration file of a home directory in a file tree. -/
def FileTree.configHome (t : FileTree) (home : Place) : ConfigHome :=
  let directory := home ++ [Config.directoryName]
  match t.entry? directory with
  | some (.file _) => .notDirectory
  | _ =>
    match t.entry? (directory ++ [Config.fileName]) with
    | some (.file content) => .directory (.bytes content)
    | some .directory => .directory .directory
    | none => .directory .missing

end TermSession
