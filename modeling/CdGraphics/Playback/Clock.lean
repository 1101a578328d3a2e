import CdGraphics.Frame
import CdGraphics.OpcodeTable
import CdGraphics.Playback.Notice
import CdGraphics.Playback.PacketRate
import CdGraphics.Raster.Drawing

/-!
# The playback clock

A clock steps a raster through a stream's instructions in time. Its pointer is the next packet to
execute; a tick turns the wall time that went by into a packet to reach and executes all before
it. A host's own audio clock can pin the position (`Clock.sync`). Operations are functions of the
clock and of what the host hands over: readings of wall time, and its answers to frames.
-/

namespace CdGraphics

/-- A position reported by another clock, and the wall time when it came. -/
structure SyncAnchor where
  positionMs : Float
  wallMs : Float

/-- A raster, the stream that is played on it and the place in both time and stream. -/
structure Clock where
  table : OpcodeTable
  raster : Raster
  stream : Option (Array Instruction)
  /-- The next packet; none while nothing is positioned and after the stream has run out. -/
  pointer : Option Nat
  positionMs : Float
  lastTickMs : Float
  anchor : Option SyncAnchor
  running : Bool
  rate : PacketRate
  syncOffsetMs : Float

/-- A host's answer to a frame: whether playback goes on. -/
inductive Answer where
  | proceed
  | halt
deriving DecidableEq, Repr

/-- What became of a clock: its state, what it told, how many instructions it executed, and the
frame that it hands over. -/
structure Outcome where
  clock : Clock
  notices : List Notice
  executed : Nat
  frame : Option Frame

namespace Clock

/-- A clock with nothing loaded. -/
def fresh (table : OpcodeTable) (syncOffsetMs : Float) : Clock where
  table := table
  raster := .blank
  stream := none
  pointer := none
  positionMs := 0.0
  lastTickMs := 0.0
  anchor := none
  running := false
  rate := .disc
  syncOffsetMs := syncOffsetMs

/-- Packets of the loaded stream. -/
def length (c : Clock) : Nat := c.stream.elim 0 Array.size

/-- Where the clock is in its lifecycle. -/
def phase (c : Clock) : Phase :=
  match c.stream, c.running, c.pointer with
  | none, _, _ => .idle
  | some _, true, _ => .running
  | some _, false, none => .finished
  | some _, false, some _ => .ready

/-- The packet under the pointer and its instruction. -/
def current? (c : Clock) : Option (Nat × Instruction) := do
  let pointer ← c.pointer
  let stream ← c.stream
  let instruction ← stream[pointer]?
  return (pointer, instruction)

/-- Goes back to packet 0 and clears the raster. -/
def reset (c : Clock) : Clock :=
  { c with pointer := some 0, positionMs := 0.0, anchor := none, raster := c.raster.reset }

/-- Decodes a stream, replaces the loaded one and goes back to packet 0. -/
def load (c : Clock) (bytes : List UInt8) : Clock × List Notice :=
  let (instructions, reported) := c.table.decodeStream bytes
  (reset { c with stream := some instructions.toArray },
    reported.map .diagnostic ++ [.event (.loaded instructions.length)])

/-- Stops ticks and drops the anchor. -/
def stop (c : Clock) : Clock × List Notice :=
  ({ c with running := false, anchor := none },
    if c.running then [.event (.stopped c.pointer)] else [])

/-- Starts ticks at the wall time `now`, if a stream is loaded and has not run out. -/
def play (c : Clock) (now : Float) : Clock × List Notice :=
  if c.running then (c, [])
  else if c.stream.isSome && c.pointer.isSome then
    ({ c with running := true, lastTickMs := now }, [.event (.started c.positionMs)])
  else (c, [.event (.playIgnored c.phase)])

/-- Pins the position, less the configured offset, as of the wall time `now`. -/
def sync (c : Clock) (ms now : Float) : Clock :=
  { c with anchor := some ⟨ms - c.syncOffsetMs, now⟩ }

/-- Leaves the stream: clears the pointer and stops. -/
def finish (c : Clock) : Clock × List Notice :=
  let ended := match c.pointer with
    | some _ => [.event (.endOfStream c.length)]
    | none => []
  let (stopped, notices) := stop { c with pointer := none }
  (stopped, ended ++ notices)

/-- Executes the instruction under the pointer, or leaves the stream if there is none; says whether
one was executed. -/
def advanceOne (c : Clock) : Except Fault (Clock × List Notice × Bool) :=
  match c.current? with
  | some (pointer, instruction) => do
    let (raster, reported) ← instruction.apply c.raster
    return ({ c with raster := raster, pointer := some (pointer + 1) },
      reported.map .diagnostic, true)
  | none =>
    let (finished, notices) := c.finish
    .ok (finished, notices, false)

/-- Advances up to `count` times while there is a pointer, and counts what was executed. -/
def advance : (count : Nat) → Clock → Except Fault (Clock × List Notice × Nat)
  | 0, c => .ok (c, [], 0)
  | count + 1, c =>
    match c.pointer with
    | none => .ok (c, [], 0)
    | some _ => do
      let (c, notices, executed) ← c.advanceOne
      let (c, later, total) ← advance count c
      return (c, notices ++ later, total + executed.toNat)

/-- Advances once, whether or not there is a pointer. -/
def step (c : Clock) : Except Fault Outcome := do
  let (c, notices, executed) ← c.advanceOne
  return ⟨c, notices, executed.toNat, none⟩

/-- Advances up to `count` times. -/
def fastForward (c : Clock) (count : Nat) : Except Fault Outcome := do
  let (c, notices, executed) ← advance count c
  return ⟨c, notices, executed, none⟩

/-- Hands over the raster's picture. -/
def render (c : Clock) : Except Fault Outcome := do
  return ⟨c, [], 0, some (← c.raster.compose)⟩

/-- The position at the wall time `now`: from the anchor if there is one, else the last tick. -/
def positionAt (c : Clock) (now : Float) : Float :=
  match c.anchor with
  | some anchor => anchor.positionMs + (now - anchor.wallMs)
  | none => c.positionMs + (now - c.lastTickMs)

/-- The packet that a tick at the wall time `now` is to reach. -/
def targetAt (c : Clock) (now : Float) : Nat := c.rate.packetsAt (c.positionAt now)

/-- Takes note of a tick's time. -/
def retime (c : Clock) (now : Float) : Clock :=
  { c with positionMs := c.positionAt now, lastTickMs := now }

/-- Moves on to the wall time `now`: executes the instructions up to the packet that it reaches
and hands over a frame if that is past the pointer. A clock that is not running stays as it is. -/
def tick (c : Clock) (now : Float) : Except Fault Outcome :=
  match c.running, c.pointer with
  | true, some pointer =>
    let target := c.targetAt now
    let c := c.retime now
    if target ≤ pointer then .ok ⟨c, [], 0, none⟩
    else do
      let (c, notices, executed) ← advance (target - pointer) c
      return ⟨c, notices, executed, some (← c.raster.compose)⟩
  | _, _ => .ok ⟨c, [], 0, none⟩

/-- An anchor in a debugging text. -/
def anchorText : Option SyncAnchor → String
  | none => "None"
  | some a =>
    "Some(SyncAnchor \x7b position_ms: " ++ FloatStyle.log.text a.positionMs ++ ", wall_ms: "
      ++ FloatStyle.log.text a.wallMs ++ " \x7d)"

/-- What a debugging text shows of a clock. -/
def text (c : Clock) : String :=
  "PlaybackClock \x7b state: " ++ c.phase.name ++ ", pointer: " ++ pointerText c.pointer
    ++ s!", len: {c.length}, position_ms: " ++ FloatStyle.log.text c.positionMs
    ++ ", anchor: " ++ anchorText c.anchor ++ ", .. \x7d"

end Clock

/-- Heeds the host's answer to a frame: playback stops where it says so. -/
def Outcome.heed (o : Outcome) (answer : Answer) : Outcome :=
  match o.frame, answer with
  | some _, .halt =>
    let (stopped, notices) := o.clock.stop
    { o with clock := stopped, notices := o.notices ++ notices }
  | _, _ => o

end CdGraphics
