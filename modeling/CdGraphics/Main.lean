import CdGraphics.Command.Run
import CdGraphics.Picture.Png

/-!
# The program

Runs the commands on the files of the machine. What is asked wrongly is answered with a short
usage text, log lines go to standard error, and a failure is told from its context to its root.
-/

namespace CdGraphics.Program

/-- Why the machine refused. -/
def fileError : IO.Error → FileError
  | .noFileOrDirectory .. => .notFound
  | .alreadyExists .. => .exists
  | .inappropriateType .. => .notDirectory
  | e => .other (toString e)

/-- Carries an action out, or says why it was refused. -/
def attempt {α : Type} (action : IO α) : IO (Except FileError α) := do
  try
    return .ok (← action)
  catch e => return .error (fileError e)

def isDirectory (path : String) : IO Bool := do
  try
    (← IO.FS.realPath path).isDir
  catch _ => return false

/-- The files of the machine. -/
def machine : FileSystem IO where
  readFile path := do
    if ← isDirectory path then return .error .isDirectory
    return (← attempt (IO.FS.readBinFile path)).map ByteArray.toList
  isDirectory := isDirectory
  makeDirectory path := attempt (IO.FS.createDir path)
  writePicture path frame := do
    if ← isDirectory path then return .error .isDirectory
    attempt (IO.FS.writeBinFile path ⟨(Png.encode frame).toArray⟩)

def usage : String :=
  "\n".intercalate
    ["Decode and render CD+Graphics streams", "", "Usage: cdg [-v] <command>", "", "Commands:",
      "  inspect --in <path> [--settings <path>] [--json]",
      "  frame --in <path> [--settings <path>] --at-ms <ms> --out <path>",
      "  frames --in <path> [--settings <path>] --out-dir <path> --fps <count> [--until-ms <ms>]",
      ""]

/-- What a wrong command line is told. -/
def usageText : UsageError → String
  | .help => usage
  | .version => "cdg 0.1.0\n"
  | .emptyLine => usage
  | .missingSubcommand => "error: a command is required\n\n" ++ usage
  | .unknownSubcommand => "error: unknown command\n\n" ++ usage
  | .unknownArgument => "error: unexpected argument\n\n" ++ usage
  | .unwantedValue => "error: unexpected value for an option that takes none\n\n" ++ usage
  | .missingValue => "error: an option lacks its value\n\n" ++ usage
  | .invalidValue => "error: invalid value for an option\n\n" ++ usage
  | .repeated => "error: an option is given more than once\n\n" ++ usage
  | .missingOption => "error: a required option is missing\n\n" ++ usage

/-- A log line as it is printed. -/
def logText (l : LogLine) : String :=
  let level := match l.level with
    | .debug => "DEBUG"
    | .warn => " WARN"
  level ++ " " ++ l.message ++ String.join (l.fields.map fun (name, value) => s!" {name}={value}")

/-- A failure as it is printed. -/
def failureText (failure : Failure) : String :=
  match failure with
  | [] => "Error\n"
  | [only] => "Error: " ++ only ++ "\n"
  | first :: causes =>
    "Error: " ++ first ++ "\n\nCaused by:\n"
      ++ String.join (causes.mapIdx fun i cause => s!"    {i}: {cause}\n")

/-- Prints what a command left behind, and gives its exit code. -/
def finish (verbose : Bool) (t : Transcript) : IO UInt32 := do
  for line in t.notices.map Notice.logLine do
    if verbose || line.level == .warn then IO.eprintln (logText line)
  IO.print t.output
  IO.eprint t.remarks
  match t.failure with
  | some failure => IO.eprint (failureText failure)
  | none => pure ()
  return t.exitCode.toUInt32

def start (arguments : List String) : IO UInt32 := do
  match Invocation.read arguments with
  | .error e =>
    if e.exitCode = 0 then IO.print (usageText e) else IO.eprint (usageText e)
    return e.exitCode.toUInt32
  | .ok (invocation, verbose) => finish verbose (← Command.run machine invocation)

end CdGraphics.Program

/-- The program's entry. -/
def main (arguments : List String) : IO UInt32 := CdGraphics.Program.start arguments
