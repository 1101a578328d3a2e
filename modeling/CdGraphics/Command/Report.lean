import CdGraphics.Instruction.Json
import CdGraphics.Instruction.Text
import CdGraphics.OpcodeTable
import CdGraphics.Number.FloatText
import CdGraphics.Playback.PacketRate

/-!
# Reports on a stream

A report lists a stream's packets with their instructions, counts them by name, and keeps what
decoding reported. It is written as a listing or as JSON.
-/

namespace CdGraphics

/-- Counts by name, in the order of the names. -/
abbrev Tally := List (String × Nat)

/-- Counts a name once more. -/
def Tally.add (name : String) : Tally → Tally
  | [] => [(name, 1)]
  | (other, count) :: rest =>
    if name = other then (other, count + 1) :: rest
    else if name < other then (name, 1) :: (other, count) :: rest
    else (other, count) :: Tally.add name rest

def Tally.ofList (names : List String) : Tally := names.foldl (fun t name => Tally.add name t) []

/-- A packet in a report. -/
structure ReportRow where
  index : Nat
  hex : String
  instruction : Instruction
deriving DecidableEq, Repr

/-- What there is to say about a stream. -/
structure Report where
  packets : Nat
  trailing : Nat
  tally : Tally
  rows : List ReportRow
  diagnostics : List Diagnostic
deriving DecidableEq, Repr

namespace Report

def ofStream (t : OpcodeTable) (bytes : List UInt8) : Report :=
  let (instructions, diagnostics) := t.decodeStream bytes
  { packets := instructions.length
    trailing := trailingBytes bytes
    tally := .ofList (instructions.map Instruction.name)
    rows := ((CdGraphics.packets bytes).zip instructions).mapIdx fun index (packet, instruction) =>
      ⟨index, packet.hex, instruction⟩
    diagnostics := diagnostics }

def blanks (count : Nat) : String := String.ofList (List.replicate count ' ')

/-- A text with blanks before it, up to a width. -/
def padLeft (width : Nat) (s : String) : String := blanks (width - s.length) ++ s

/-- A text with blanks after it, up to a width. -/
def padRight (width : Nat) (s : String) : String := s ++ blanks (width - s.length)

/-- The line of a packet. -/
def rowText (r : ReportRow) : String :=
  padLeft 7 (toString r.index) ++ "  " ++ r.hex ++ "  " ++ r.instruction.text ++ "\n"

/-- The line that sums a stream up, with the time that its packets take. -/
def summary (r : Report) : String :=
  s!"{r.packets} packets (" ++ twoPlaces (PacketRate.disc.startOf r.packets / 1000.0)
    ++ s!" s), {r.trailing} trailing bytes\n"

/-- The line of a count. -/
def tallyText (entry : String × Nat) : String :=
  "  " ++ padRight 18 entry.1 ++ " " ++ toString entry.2 ++ "\n"

/-- The report as a listing. -/
def text (r : Report) : String :=
  String.join (r.rows.map rowText) ++ "\n" ++ r.summary ++ String.join (r.tally.map tallyText)
    ++ if r.diagnostics.isEmpty then ""
      else s!"{r.diagnostics.length} diagnostics:\n"
        ++ String.join (r.diagnostics.map fun d => "  " ++ d.text ++ "\n")

/-- A packet as JSON. -/
def rowJson (r : ReportRow) : Json :=
  .object [("index", .number r.index), ("hex", .text r.hex), ("instruction", r.instruction.toJson)]

/-- The report as JSON. -/
def toJson (r : Report) : Json :=
  .object [("packets", .number r.packets), ("trailing_bytes", .number r.trailing),
    ("opcodes", .object (r.tally.map fun (name, count) => (name, .number count))),
    ("instructions", .list (r.rows.map rowJson)),
    ("diagnostics", .list (r.diagnostics.map Diagnostic.toJson))]

end Report

end CdGraphics
