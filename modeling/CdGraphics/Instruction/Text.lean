import CdGraphics.Instruction.Basic
import CdGraphics.Text.Hex

/-!
# Instructions as text

A listing shows an instruction's name and the fields that matter to a reader.
-/

namespace CdGraphics

/-- The direction of a move, after a blank. -/
def HorizontalMove.text : HorizontalMove → String
  | none => ""
  | right => " right"
  | left => " left"

def VerticalMove.text : VerticalMove → String
  | none => ""
  | down => " down"
  | up => " up"

/-- A colour's components in hexadecimal, without padding. -/
def Nibbles.text (c : Nibbles) : String :=
  "#" ++ Hex.ofNat c.red.toNat ++ Hex.ofNat c.green.toNat ++ Hex.ofNat c.blue.toNat

/-- Colours with the palette entries that they are meant for. -/
def paletteText (base : Nat) (colors : List Nibbles) : String :=
  ", ".intercalate (colors.mapIdx fun i c => s!"{base + i}: " ++ c.text)

/-- What a listing shows after an instruction's name. -/
def Instruction.fieldsText : Instruction → String
  | .noop => ""
  | .memoryPreset color _ | .borderPreset color | .setKeyColor color =>
    s!" color index: {color.toNat}"
  | .tile _ t =>
    s!" row: {t.row.toNat}, column: {t.column.toNat}, color indexes: "
      ++ s!"[{t.clearColor.toNat}, {t.setColor.toNat}]"
  | .scroll _ s =>
    s.vertical.text ++ s.horizontal.text
      ++ s!" vOffset: {s.vOffset.toNat} hOffset: {s.hOffset.toNat}"
  | .loadColors half colors => " colors: [" ++ paletteText half.base colors.toList ++ "]"

def Instruction.text (i : Instruction) : String := i.name ++ i.fieldsText

end CdGraphics
