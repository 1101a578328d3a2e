import CdGraphics.Diagnostic
import CdGraphics.Instruction.Basic
import CdGraphics.Json.Value

/-!
# Instructions and diagnostics as JSON

An instruction is an object whose first member `op` names it; a diagnostic is one whose first
member is `kind`.
-/

namespace CdGraphics

/-- The name of an opcode in a report. -/
def Opcode.tag : Opcode → String
  | noop => "noop"
  | memoryPreset => "memory_preset"
  | borderPreset => "border_preset"
  | tileBlock => "tile_block"
  | scrollPreset => "scroll_preset"
  | scrollCopy => "scroll_copy"
  | setKeyColor => "set_key_color"
  | loadColorsLow => "load_clut_low"
  | loadColorsHigh => "load_clut_high"
  | tileBlockXor => "tile_block_xor"

def HorizontalMove.tag : HorizontalMove → String
  | none => "none"
  | right => "right"
  | left => "left"

def VerticalMove.tag : VerticalMove → String
  | none => "none"
  | down => "down"
  | up => "up"

/-- A colour's three components in a list. -/
def Nibbles.toJson (c : Nibbles) : Json := .list [.byte c.red, .byte c.green, .byte c.blue]

/-- The members of an instruction's object after its first. -/
def Instruction.members : Instruction → List (String × Json)
  | .noop => []
  | .memoryPreset color repetition => [("color", .byte color), ("repeat", .byte repetition)]
  | .borderPreset color => [("color", .byte color)]
  | .tile _ t =>
    [("colors", .list [.byte t.clearColor, .byte t.setColor]), ("row", .byte t.row),
      ("column", .byte t.column), ("bitmap", .list (t.bitmap.toList.map .byte))]
  | .scroll _ s =>
    [("color", .byte s.color), ("h_scroll", .text s.horizontal.tag), ("h_offset", .byte s.hOffset),
      ("v_scroll", .text s.vertical.tag), ("v_offset", .byte s.vOffset)]
  | .setKeyColor color => [("color", .byte color)]
  | .loadColors _ colors => [("colors", .list (colors.toList.map Nibbles.toJson))]

def Instruction.toJson (i : Instruction) : Json := .object (("op", .text i.opcode.tag) :: i.members)

def Diagnostic.toJson : Diagnostic → Json
  | .unknownOpcode packet opcode =>
    .object [("kind", .text "unknown_opcode"), ("packet", packet.elim .null .number),
      ("opcode", .byte opcode)]
  | .outOfBounds row column =>
    .object [("kind", .text "out_of_bounds_draw"), ("row", .byte row), ("column", .byte column)]
  | .truncated trailing =>
    .object [("kind", .text "truncated_stream"), ("trailing_bytes", .number trailing)]

end CdGraphics
