import CdGraphics.Command.Arguments
import CdGraphics.Command.FileSystem
import CdGraphics.Command.Report
import CdGraphics.Settings

/-!
# The commands

`inspect` reports on a stream, `frame` plays it up to a point in time and writes the picture, and
`frames` plays it at a steady rate and writes a picture for every frame handed over. Each gives a
`Transcript` of what it printed, logged and failed by.
-/

namespace CdGraphics

/-- A failure from its outermost context to its root. -/
abbrev Failure := List String

/-- What a command leaves behind besides its files. -/
structure Transcript where
  output : String
  remarks : String
  notices : List Notice
  failure : Option Failure

namespace Transcript

/-- Nothing but a failure. -/
def failed (failure : Failure) (notices : List Notice) : Transcript :=
  ⟨"", "", notices, some failure⟩

def exitCode (t : Transcript) : Nat := if t.failure.isSome then 1 else 0

end Transcript

namespace Command

variable {m : Type → Type} [Monad m]

def decodeText? (bytes : List UInt8) : Option String := String.fromUTF8? ⟨bytes.toArray⟩

/-- Reads settings from a file. What the file system or the text is refused for stands below the
error of the settings; a document is refused under the file's name. -/
def readSettings (fs : FileSystem m) (path : String) : m (Except Failure Settings) := do
  let context := s!"load settings '{path}'"
  let refused (text : String) : Failure := [context, (Error.io text).message, text]
  match ← fs.readFile path with
  | .error e => return .error (refused e.message)
  | .ok bytes =>
    match decodeText? bytes with
    | none => return .error (refused "stream did not contain valid UTF-8")
    | some text =>
      match Settings.ofText text with
      | .ok settings => return .ok settings
      | .error e => return .error [context, (Error.settings (path ++ ": " ++ e.message)).message]

/-- Reads a stream and the settings to play it with. -/
def readInput (fs : FileSystem m) (input : Input) :
    m (Except Failure (List UInt8 × Settings)) := do
  match ← fs.readFile input.path with
  | .error e => return .error [s!"read cdg '{input.path}'", e.message]
  | .ok bytes =>
    match input.settings with
    | none => return .ok (bytes, .standard)
    | some path => return (← readSettings fs path).map fun settings => (bytes, settings)

/-- Makes a directory for output. -/
def makeOutputDirectory (fs : FileSystem m) (path : String) : m (Except Failure Unit) := do
  return (← fs.makeDirectories path).mapError fun e =>
    [s!"create output dir '{path}'", e.message]

/-- Writes a picture, in a directory that is made if it is missing. -/
def writePng (fs : FileSystem m) (path : String) (frame : Frame) : m (Except Failure Unit) := do
  let parent := (Path.parent? path).getD ""
  match ← if parent.isEmpty then pure (.ok ()) else makeOutputDirectory fs parent with
  | .error failure => return .error failure
  | .ok () =>
    return (← fs.writePicture path frame).mapError fun e => [s!"write png '{path}'", e.message]

/-- Reports on a stream. -/
def inspect (fs : FileSystem m) (input : Input) (json : Bool) : m Transcript := do
  match ← readInput fs input with
  | .error failure => return .failed failure []
  | .ok (bytes, settings) =>
    let report := Report.ofStream (.ofSettings settings) bytes
    let output := if json then report.toJson.pretty ++ "\n" else report.text
    return ⟨output, "", [], none⟩

/-- A clock with a stream loaded and started at time 0. -/
def startPlayback (settings : Settings) (bytes : List UInt8) : Clock × List Notice :=
  let (clock, loaded) := (Clock.ofSettings settings).load bytes
  let (clock, started) := clock.play 0.0
  (clock, loaded ++ started)

/-- The picture at a time, and what playing up to it told. -/
def pictureAt (settings : Settings) (bytes : List UInt8) (atMs : Float) :
    Except Fault (Frame × List Notice) := do
  let (clock, started) := startPlayback settings bytes
  let o ← clock.tick atMs
  let frame ← o.clock.raster.compose
  return (frame, started ++ o.notices ++ [.event (.positioned o.executed o.clock.pointer)])

/-- Writes the picture at a time. -/
def frame (fs : FileSystem m) (input : Input) (atMs : Float) (out : String) : m Transcript := do
  match ← readInput fs input with
  | .error failure => return .failed failure []
  | .ok (bytes, settings) =>
    if !atMs.isFinite then return .failed ["--at-ms must be finite"] []
    match pictureAt settings bytes atMs with
    | .error fault => return .failed [fault.message] []
    | .ok (picture, notices) =>
      match ← writePng fs out picture with
      | .error failure => return .failed failure notices
      | .ok () => return ⟨"", s!"wrote {out}\n", notices, none⟩

/-- How far writing frames has come. -/
structure Progress where
  clock : Clock
  written : Nat
  notices : List Notice
  failure : Option Failure

/-- The name of the file of a frame's number, of six digits or more. -/
def frameName (number : Nat) : String :=
  let digits := toString number
  "frame_" ++ String.ofList (List.replicate (6 - digits.length) '0') ++ digits ++ ".png"

/-- Hands a tick's frame over: writes it as the next file, and halts the clock where that fails. -/
def deliver (fs : FileSystem m) (outDir : String) (p : Progress) (o : Outcome) : m Progress := do
  match o.frame with
  | none => return { p with clock := o.clock, notices := p.notices ++ o.notices }
  | some picture =>
    match ← writePng fs (Path.join outDir (frameName p.written)) picture with
    | .ok () =>
      let o := o.heed .proceed
      return { p with
        clock := o.clock, notices := p.notices ++ o.notices, written := p.written + 1 }
    | .error failure =>
      let o := o.heed .halt
      return { p with
        clock := o.clock, notices := p.notices ++ o.notices, failure := some failure }

/-- The time lies beyond the limit, if there is one. -/
def isPast (untilMs : Option Float) (now : Float) : Bool :=
  match untilMs with
  | some limit => decide (limit < now)
  | none => false

/-- Ticks a running clock from the tick of a number on, up to a time, at most `count` times. -/
def playFrames (fs : FileSystem m) (outDir : String) (periodMs : Float) (untilMs : Option Float) :
    (count tick : Nat) → Progress → m Progress
  | 0, _, p => return p
  | count + 1, tick, p => do
    let now := Float.ofNat tick * periodMs
    if !p.clock.running || isPast untilMs now then return p
    match p.clock.tick now with
    | .error fault => return { p with failure := some [fault.message] }
    | .ok o => playFrames fs outDir periodMs untilMs count (tick + 1) (← deliver fs outDir p o)

/-- More ticks than a stream lasts: the packet that the last of them reaches lies beyond its end,
by as much again. -/
def tickBound (packets fps : Nat) : Nat :=
  2 * ((packets + 1) * fps / PacketRate.disc.packetsPerSecond + 1)

/-- Writes a picture for every frame of playback at a steady rate. -/
def frames (fs : FileSystem m) (input : Input) (outDir : String) (fps : Nat)
    (untilMs : Option Float) : m Transcript := do
  match ← readInput fs input with
  | .error failure => return .failed failure []
  | .ok (bytes, settings) =>
    match ← makeOutputDirectory fs outDir with
    | .error failure => return .failed failure []
    | .ok () =>
      let (clock, started) := startPlayback settings bytes
      let p ← playFrames fs outDir (1000.0 / Float.ofNat fps) untilMs (tickBound clock.length fps)
        1 ⟨clock, 0, started, none⟩
      match p.failure with
      | some failure => return .failed failure p.notices
      | none => return ⟨"", s!"wrote {p.written} frames to {outDir}\n", p.notices, none⟩

def run (fs : FileSystem m) : Invocation → m Transcript
  | .inspect input json => inspect fs input json
  | .frame input atMs out => frame fs input atMs out
  | .frames input outDir fps untilMs => frames fs input outDir fps untilMs

end Command

end CdGraphics
