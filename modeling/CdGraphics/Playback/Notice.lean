import CdGraphics.Diagnostic
import CdGraphics.Number.FloatText

/-!
# Notices

What a clock tells its host while it runs, in order: diagnostics of the stream, and events of its
own. Each is a log line; only a dropped tail and the clock's own events are for debugging alone.
-/

namespace CdGraphics

/-- The lifecycle of a clock. -/
inductive Phase where
  /-- Nothing is loaded. -/
  | idle
  /-- Loaded and positioned, with ticks ignored. -/
  | ready
  /-- Ticks advance playback. -/
  | running
  /-- The pointer ran off the end of the stream. -/
  | finished
deriving DecidableEq, Repr

def Phase.name : Phase → String
  | idle => "Idle"
  | ready => "Ready"
  | running => "Running"
  | finished => "Finished"

/-- Something a clock did. -/
inductive Event where
  | loaded (packets : Nat)
  | playIgnored (phase : Phase)
  | started (positionMs : Float)
  | stopped (pointer : Option Nat)
  | endOfStream (length : Nat)
  | positioned (executed : Nat) (pointer : Option Nat)

/-- A diagnostic or an event. -/
inductive Notice where
  | diagnostic (diagnostic : Diagnostic)
  | event (event : Event)

/-- How much a log line matters. -/
inductive LogLevel where
  | debug
  | warn
deriving DecidableEq, Repr

/-- A line of a log. -/
structure LogLine where
  level : LogLevel
  message : String
  fields : List (String × String)
deriving DecidableEq, Repr

def pointerText : Option Nat → String
  | some pointer => s!"Some({pointer})"
  | none => "None"

/-- The log line of an event. -/
def Event.logLine : Event → LogLine
  | loaded packets => ⟨.debug, "loaded CDG stream", [("packets", toString packets)]⟩
  | playIgnored phase => ⟨.debug, "play ignored", [("state", phase.name)]⟩
  | started positionMs =>
    ⟨.debug, "playback started", [("position_ms", FloatStyle.log.text positionMs)]⟩
  | stopped pointer => ⟨.debug, "playback stopped", [("pointer", pointerText pointer)]⟩
  | endOfStream length => ⟨.debug, "end of stream", [("len", toString length)]⟩
  | positioned executed pointer =>
    ⟨.debug, "positioned", [("executed", toString executed), ("pointer", pointerText pointer)]⟩

def Diagnostic.logLine (d : Diagnostic) : LogLine :=
  let level := match d with
    | .truncated _ => .debug
    | _ => .warn
  ⟨level, d.text, []⟩

def Notice.logLine : Notice → LogLine
  | diagnostic d => d.logLine
  | event e => e.logLine

end CdGraphics
