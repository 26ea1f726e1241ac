import Rekey.CommandLine.Run

/-!
# The program

Reads the command line and the environment, runs the command, and prints its result or its error.
-/

open Rekey.CommandLine

/-- The environment variables that hold settings. -/
def readEnvironment : IO (List (String × String)) := do
  let values ← environmentNames.mapM fun (_, var) => do
    pure ((← IO.getEnv var).map fun value => (var, value))
  pure (values.filterMap id)

/-- What the operating system says of a failure: its number, maybe negated, and its text. -/
def systemFault? : IO.Error → Option (UInt32 × String)
  | .alreadyExists _ code text | .interrupted _ code text | .noFileOrDirectory _ code text
  | .invalidArgument _ code text | .permissionDenied _ code text
  | .resourceExhausted _ code text | .inappropriateType _ code text | .noSuchThing _ code text
  | .otherError code text | .resourceBusy code text | .resourceVanished code text
  | .unsupportedOperation code text | .hardwareFault code text
  | .unsatisfiedConstraints code text | .illegalOperation code text | .protocolError code text
  | .timeExpired code text => some (code, text)
  | .unexpectedEof | .userError _ => none

/-- Why a file could not be read. -/
def readFault (e : IO.Error) : String :=
  match systemFault? e with
  | none => toString e
  | some (code, text) =>
    let number := if code.toNat < 0x80000000 then code.toNat else 0x100000000 - code.toNat
    text.capitalize ++ " (os error " ++ toString number ++ ")"

/-- The content of the file that a command line names, if it names one. -/
def readNamedFile (words : List String) (env : List (String × String)) :
    IO (Except String ByteArray) := do
  match Settings.read env words with
  | .ok s =>
    match s.command with
    | .replaceKeys path _ =>
      try
        pure (.ok (← IO.FS.readBinFile path))
      catch e => pure (.error (readFault e))
    | _ => pure (.error "")
  | .error _ => pure (.error "")

/-- What is said of a command line that cannot be used. -/
def usageText : UsageError → String
  | .helpAsked | .nothingGiven =>
    "Usage: rekey [OPTIONS] --database-url <DATABASE_URL> <COMMAND>"
  | .versionAsked => "rekey 0.1.0"
  | _ => "error: the command line cannot be used; try --help"

/-- Runs the program. -/
def main (words : List String) : IO UInt32 := do
  let env ← readEnvironment
  let file ← readNamedFile words env
  match (runLine env words (Host.isolated fun _ => file)).1 with
  | .printed text =>
    IO.println text
    pure 0
  | .failed f =>
    IO.eprintln ("Error: " ++ f.message)
    pure 1
  | .misused e =>
    if e.exitCode = 0 then IO.println (usageText e) else IO.eprintln (usageText e)
    pure (UInt32.ofNat e.exitCode)
