import TermSession.Command

/-!
# The program

Reads the arguments, the configuration file and the input, and prints what the run leaves.
-/

namespace TermSession

/-- What an input or output error says about a file. -/
def ReadError.ofError : IO.Error → ReadError
  | .noFileOrDirectory .. => .missing
  | .inappropriateType _ code _ => if code = 21 then .isDirectory else .notDirectory
  | .invalidArgument _ _ "name too long" => .nameTooLong
  | e => .other (toString e).toList

/-- Everything that is still to come from a stream. -/
partial def readAll (input : IO.FS.Stream) (done : ByteArray) : IO ByteArray := do
  let more ← input.read 65536
  if more.isEmpty then return done else readAll input (done ++ more)

/-- The content of a file, or the standard input. -/
def readInput (file : Option Text) : IO (Except ReadError (List UInt8)) := do
  try
    let content ← match file with
      | some path => IO.FS.readBinFile (String.ofList path)
      | none => readAll (← IO.getStdin) .empty
    return .ok content.toList
  catch e => return .error (.ofError e)

/-- What there is of the configuration file. -/
def readHome (path : Option Text) : IO ConfigHome := do
  match path with
  | none => return .unknown
  | some path =>
    match ← readInput (some path) with
    | .ok content => return .directory (.bytes content)
    | .error .notDirectory => return .notDirectory
    | .error .isDirectory => return .directory .directory
    | .error _ => return .directory .missing

/-- Notes the start of a run in the log file, if it can be written. -/
def logStart (directory : Option Text) : IO Unit := do
  let directory := String.ofList (directory.getD ".".toList)
  try
    IO.FS.createDirAll directory
    let log ← IO.FS.Handle.mk (directory ++ "/termweave.log") .append
    log.putStrLn "INFO termweave starting..."
  catch _ => return ()

/-- Runs the program with its arguments. -/
def run (arguments : List Text) : IO Outcome := do
  match Command.read arguments with
  | .ok (.replay o) =>
    let profile := (← IO.getEnv "USERPROFILE").map String.toList
    let home := (← IO.getEnv "HOME").map String.toList
    logStart (Config.directory profile home)
    let config := Config.load (← readHome (Config.path profile home))
    let input ← readInput o.file
    let now ← IO.monoMsNow
    return Outcome.ofArguments arguments config (fun _ => now) (fun _ => input)
  | _ => return Outcome.ofArguments arguments {} (fun _ => 0) (fun _ => .ok [])

end TermSession

open TermSession in
/-- Prints both outputs and gives the exit code. -/
def main (arguments : List String) : IO UInt32 := do
  let outcome ← run (arguments.map String.toList)
  (← IO.getStdout).putStr (String.ofList outcome.output)
  (← IO.getStderr).putStr (String.ofList outcome.messages)
  return UInt32.ofNat outcome.code
