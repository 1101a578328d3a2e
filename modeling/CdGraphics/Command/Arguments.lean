import CdGraphics.Number.Numeral

/-!
# Command lines

A command line names a subcommand and its options; `Invocation.read` gives what it asks for, or a
`UsageError`. Arguments are taken from left to right. An option that takes its value from the next
argument is settled only by the next option or the end, so that an argument nobody knows is found
first.
-/

namespace CdGraphics

/-- Why a command line asks for nothing that can be done. Help and version are asked for. -/
inductive UsageError where
  | help
  | version
  | emptyLine
  | missingSubcommand
  | unknownSubcommand
  | unknownArgument
  | unwantedValue
  | missingValue
  | invalidValue
  | repeated
  | missingOption
deriving DecidableEq, Repr

/-- The exit code: 0 where something was asked for. -/
def UsageError.exitCode : UsageError → Nat
  | help | version => 0
  | _ => 2

/-- The options of all subcommands. -/
inductive Opt where
  | input
  | settings
  | json
  | atMs
  | out
  | outDir
  | fps
  | untilMs
  | verbose
  | help
  | version
deriving DecidableEq, Repr

namespace Opt

/-- The name after two dashes. -/
def long : Opt → String
  | input => "in"
  | settings => "settings"
  | json => "json"
  | atMs => "at-ms"
  | out => "out"
  | outDir => "out-dir"
  | fps => "fps"
  | untilMs => "until-ms"
  | verbose => "verbose"
  | help => "help"
  | version => "version"

/-- The letter after one dash. -/
def short? : Opt → Option Char
  | verbose => some 'v'
  | help => some 'h'
  | version => some 'V'
  | _ => none

/-- What kind of value an option takes. -/
inductive Value where
  | flag
  | path
  | float
  | count
deriving DecidableEq, Repr

def value : Opt → Value
  | input | settings | out | outDir => .path
  | atMs | untilMs => .float
  | fps => .count
  | json | verbose | help | version => .flag

end Opt

/-- The number of a text that holds a whole number from 1 up to the greatest of 32 bits. -/
def readCount? (text : String) : Option Nat :=
  let (negative, digits) := Numeral.spanSign text.toList
  let n := extendDigits 0 digits
  if digits ≠ [] ∧ digits.all Char.isDigit ∧ !negative ∧ 1 ≤ n ∧ n < Nat.pow 2 32 then some n
  else none

/-- What is wrong with a value. An empty path is no value. -/
def Opt.Value.error? (kind : Opt.Value) (text : String) : Option UsageError :=
  match kind with
  | .flag => none
  | .path => if text.isEmpty then some .missingValue else none
  | .float => if (readFloat? text).isSome then none else some .invalidValue
  | .count => if (readCount? text).isSome then none else some .invalidValue

/-- Options read so far, and the one that waits to be settled, with its value if it has come. -/
structure Options where
  known : List Opt
  given : List (Opt × String)
  pending : Option (Opt × Option String)

namespace Options

/-- Nothing read yet. -/
def start (known : List Opt) : Options := ⟨known, [], none⟩

/-- The value given to an option. -/
def get? (o : Options) (opt : Opt) : Option String :=
  (o.given.find? fun p => p.1 == opt).map Prod.snd

def has (o : Options) (opt : Opt) : Bool := (o.get? opt).isSome

/-- Takes an option with its value, once. -/
def store (o : Options) (opt : Opt) (text : String) : Except UsageError Options :=
  if o.has opt then .error .repeated
  else match opt.value.error? text with
    | some e => .error e
    | none => .ok { o with given := o.given ++ [(opt, text)] }

/-- Settles the option that waits. -/
def settle (o : Options) : Except UsageError Options :=
  match o.pending with
  | none => .ok o
  | some (_, none) => .error .missingValue
  | some (opt, some text) => { o with pending := none }.store opt text

/-- Takes an option without a value. -/
def flag (o : Options) (opt : Opt) : Except UsageError Options := do
  let o ← o.settle
  match opt with
  | .help => throw .help
  | .version => throw .version
  | opt => o.store opt ""

/-- Takes the argument after two dashes, a name and perhaps a value. -/
def longArgument (o : Options) (cs : List Char) : Except UsageError Options := do
  let name := String.ofList (cs.takeWhile (· ≠ '='))
  let attached := (cs.dropWhile (· ≠ '=')).tail?.map String.ofList
  match o.known.find? fun opt => opt.long == name with
  | none => throw .unknownArgument
  | some opt =>
    match opt.value, attached with
    | .flag, some _ => throw .unwantedValue
    | .flag, none => o.flag opt
    | _, some text => (← o.settle).store opt text
    | _, none => return { (← o.settle) with pending := some (opt, none) }

/-- Takes the letters after one dash. -/
def shortArguments (o : Options) (cs : List Char) : Except UsageError Options :=
  cs.foldlM (fun o c => match o.known.find? fun opt => opt.short? == some c with
    | none => .error .unknownArgument
    | some opt => o.flag opt) o

/-- Takes the options of a subcommand. Two dashes end them, and nothing may follow. -/
def readAll (o : Options) : List String → Except UsageError Options
  | [] => o.settle
  | argument :: rest =>
    match argument.toList with
    | ['-', '-'] => if rest.isEmpty then o.settle else .error .unknownArgument
    | '-' :: '-' :: cs => do (← o.longArgument cs).readAll rest
    | '-' :: c :: cs => do (← o.shortArguments (c :: cs)).readAll rest
    | _ =>
      match o.pending with
      | some (opt, none) => { o with pending := some (opt, some argument) }.readAll rest
      | _ => .error .unknownArgument

end Options

/-- What can be asked for. -/
inductive Subcommand where
  | inspect
  | frame
  | frames
deriving DecidableEq, Repr

namespace Subcommand

def name : Subcommand → String
  | inspect => "inspect"
  | frame => "frame"
  | frames => "frames"

def ofName? (name : String) : Option Subcommand :=
  [inspect, frame, frames].find? fun s => s.name == name

/-- The options of a subcommand that must be given. -/
def required : Subcommand → List Opt
  | inspect => [.input]
  | frame => [.input, .atMs, .out]
  | frames => [.input, .outDir, .fps]

/-- All options of a subcommand. -/
def options (s : Subcommand) : List Opt :=
  s.required ++ [.settings, .verbose, .help] ++ match s with
    | inspect => [.json]
    | frame => []
    | frames => [.untilMs]

end Subcommand

/-- A stream's file and the file of the settings to play it with. -/
structure Input where
  path : String
  settings : Option String
deriving DecidableEq, Repr

/-- What a command line asks for. -/
inductive Invocation where
  | inspect (input : Input) (json : Bool)
  | frame (input : Input) (atMs : Float) (out : String)
  | frames (input : Input) (outDir : String) (fps : Nat) (untilMs : Option Float)

namespace Invocation

/-- What a subcommand's options ask for, once all that it needs are given. -/
def ofOptions (s : Subcommand) (o : Options) : Except UsageError Invocation := do
  if !s.required.all o.has then throw .missingOption
  let text (opt : Opt) : String := (o.get? opt).getD ""
  let float? (opt : Opt) : Option Float := (o.get? opt).bind readFloat?
  let input : Input := ⟨text .input, o.get? .settings⟩
  match s with
  | .inspect => return .inspect input (o.has .json)
  | .frame => return .frame input ((float? .atMs).getD 0.0) (text .out)
  | .frames =>
    return .frames input (text .outDir) ((readCount? (text .fps)).getD 1) (float? .untilMs)

/-- What asking for help on something gives. -/
def readHelp : List String → UsageError
  | [] => .help
  | [name] =>
    if (Subcommand.ofName? name).isSome || name == "help" then .help else .unknownSubcommand
  | _ => .unknownSubcommand

/-- What a line without a subcommand lacks. -/
def withoutSubcommand (o : Options) : UsageError :=
  if o.given.isEmpty then .emptyLine else .missingSubcommand

/-- Reads the options before the subcommand, then the subcommand; says whether log lines for
debugging are asked for. -/
def readFrom (o : Options) : List String → Except UsageError (Invocation × Bool)
  | [] => .error (withoutSubcommand o)
  | argument :: rest =>
    match Subcommand.ofName? argument with
    | some s => do
      let read ← (Options.start s.options).readAll rest
      return (← ofOptions s read, o.has .verbose || read.has .verbose)
    | none =>
      if argument == "help" then .error (readHelp rest)
      else match argument.toList with
        | ['-', '-'] => .error <| match rest with
          | [] => withoutSubcommand o
          | name :: _ =>
            if (Subcommand.ofName? name).isSome || name == "help" then .unknownArgument
            else .unknownSubcommand
        | '-' :: '-' :: cs => do readFrom (← o.longArgument cs) rest
        | '-' :: c :: cs => do readFrom (← o.shortArguments (c :: cs)) rest
        | _ => .error .unknownSubcommand

def read (arguments : List String) : Except UsageError (Invocation × Bool) :=
  readFrom (.start [.verbose, .help, .version]) arguments

end Invocation

end CdGraphics
