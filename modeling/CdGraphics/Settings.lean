import CdGraphics.Json.Reader
import CdGraphics.Playback.Clock

/-!
# Settings

What a host chooses for a player, usually in a JSON document: the field that vertical scrolls are
read from, and the latency of its audio. Fields that are left out take their defaults.
-/

namespace CdGraphics

/-- A host's choices. -/
structure Settings where
  verticalSource : VerticalSource
  /-- Milliseconds that every position of an audio clock is reduced by. -/
  syncOffsetMs : Float

namespace Settings

/-- The choices where none is made. -/
def standard : Settings := ⟨.verticalField, 0.0⟩

/-- The offset must be a number. -/
def validate (s : Settings) : Except Error Unit :=
  if s.syncOffsetMs.isFinite then .ok () else .error (.settings "sync_offset_ms must be finite")

end Settings

/-- The name of a source in a document. -/
def VerticalSource.tag : VerticalSource → String
  | verticalField => "vertical_field"
  | horizontalField => "horizontal_field"

def VerticalSource.read : Json.Reader VerticalSource :=
  Json.readChoice ([verticalField, horizontalField].map fun source => (source.tag, source))

namespace Settings

/-- The fields read so far. -/
structure Draft where
  verticalSource : Option VerticalSource
  syncOffsetMs : Option Float

/-- How settings are read: with no name but their own, and defaults for what is missing. -/
def record : Json.Record Draft Settings where
  expected := "struct PlayerSettings"
  fields :=
    [⟨"vertical_scroll", fun d => d.verticalSource.isSome, fun d cs => do
        let (source, rest) ← VerticalSource.read cs
        return ({ d with verticalSource := some source }, rest)⟩,
      ⟨"sync_offset_ms", fun d => d.syncOffsetMs.isSome, fun d cs => do
        let (ms, rest) ← Json.readFloat cs
        return ({ d with syncOffsetMs := some ms }, rest)⟩]
  ignoresOthers := false
  needsAll := false
  blank := ⟨none, none⟩
  finish d := .ok
    ⟨d.verticalSource.getD standard.verticalSource, d.syncOffsetMs.getD standard.syncOffsetMs⟩

def ofText (text : String) : Except Error Settings := do
  match Json.readDocument record.read text with
  | .ok settings =>
    settings.validate
    return settings
  | .error e => throw (.settings e.message)

end Settings

/-- The standard table with the vertical scroll command where the settings say. -/
def OpcodeTable.ofSettings (s : Settings) : OpcodeTable :=
  standard.withVerticalSource s.verticalSource

def Clock.ofSettings (s : Settings) : Clock := fresh (.ofSettings s) s.syncOffsetMs

/-! ## Colours and rates in documents -/

/-- The members of a record of whole numbers read so far, by place. -/
abbrev Naturals := Nat → Option Nat

/-- How a record of whole numbers is read, members of other names being passed over. -/
def naturalsRecord {α : Type} (expected kind : String) (greatest : Nat) (names : List String)
    (make : (Nat → Nat) → α) : Json.Record Naturals α where
  expected := expected
  fields := names.mapIdx fun place name =>
    ⟨name, fun d => (d place).isSome, fun d cs => do
      let (value, rest) ← Json.readNatural kind greatest cs
      return (fun other => if other = place then some value else d other, rest)⟩
  ignoresOthers := true
  needsAll := true
  blank := fun _ => none
  finish d := match names.zipIdx.find? fun p => (d p.2).isNone with
    | some (name, _) => .error (.missingField name)
    | none => .ok (make fun place => (d place).getD 0)

def Rgb.record : Json.Record Naturals Rgb :=
  naturalsRecord "struct Rgb8" "u8" 255 ["r", "g", "b"] fun value =>
    ⟨UInt8.ofNat (value 0), UInt8.ofNat (value 1), UInt8.ofNat (value 2)⟩

def PacketRate.record : Json.Record Naturals PacketRate :=
  naturalsRecord "struct PacketRate" "u32" 4294967295 ["sectors_per_second", "packets_per_sector"]
    fun value => ⟨value 0, value 1⟩

end CdGraphics
