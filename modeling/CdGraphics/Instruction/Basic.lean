import CdGraphics.Color
import CdGraphics.Geometry

/-!
# Instructions

One packet carries one instruction. Its fields are bytes; `Instruction.InRange` says which values
the format can carry, and nothing here enforces it, so that a player can be driven by hand.
-/

namespace CdGraphics

/-- The instructions of the format. -/
inductive Opcode where
  | noop
  | memoryPreset
  | borderPreset
  | tileBlock
  | scrollPreset
  | scrollCopy
  | setKeyColor
  | loadColorsLow
  | loadColorsHigh
  | tileBlockXor
deriving DecidableEq, Repr

namespace Opcode

/-- All opcodes, by ascending code. -/
def all : List Opcode :=
  [noop, memoryPreset, borderPreset, tileBlock, scrollPreset, scrollCopy, setKeyColor,
    loadColorsLow, loadColorsHigh, tileBlockXor]

/-- The code of an opcode in a packet's second byte. -/
def code : Opcode → UInt8
  | noop => 0
  | memoryPreset => 1
  | borderPreset => 2
  | tileBlock => 6
  | scrollPreset => 20
  | scrollCopy => 24
  | setKeyColor => 28
  | loadColorsLow => 30
  | loadColorsHigh => 31
  | tileBlockXor => 38

def ofCode? (code : UInt8) : Option Opcode := all.find? fun op => op.code == code

/-- The name a listing shows. -/
def name : Opcode → String
  | noop => "No-op"
  | memoryPreset => "Memory Preset"
  | borderPreset => "Border Preset"
  | tileBlock => "Tile Block"
  | scrollPreset => "Scroll Preset"
  | scrollCopy => "Scroll Copy"
  | setKeyColor => "Set Key Color"
  | loadColorsLow => "Load CLUT (Low)"
  | loadColorsHigh => "Load CLUT (High)"
  | tileBlockXor => "Tile Block (XOR)"

theorem ofCode?_code (op : Opcode) : ofCode? op.code = some op := by cases op <;> decide

theorem code_lt (op : Opcode) : op.code.toNat < 64 := by cases op <;> decide

end Opcode

/-- Which field of a scroll holds the vertical command: its own, or, in content written for
players that read it so, the horizontal one. -/
inductive VerticalSource where
  | verticalField
  | horizontalField
deriving DecidableEq, Repr

/-- A horizontal move of the whole picture, by one tile. -/
inductive HorizontalMove where
  | none
  | right
  | left
deriving DecidableEq, Repr

/-- A vertical move of the whole picture, by one tile. -/
inductive VerticalMove where
  | none
  | down
  | up
deriving DecidableEq, Repr

/-- The cells by which the picture moves to the right. -/
def HorizontalMove.delta : HorizontalMove → Int
  | none => 0
  | right => tileWidth
  | left => -tileWidth

/-- The cells by which the picture moves down. -/
def VerticalMove.delta : VerticalMove → Int
  | none => 0
  | down => tileHeight
  | up => -tileHeight

/-- A glyph of two colours, a byte for each of its twelve rows. -/
structure Tile where
  clearColor : UInt8
  setColor : UInt8
  row : UInt8
  column : UInt8
  bitmap : Vector UInt8 tileHeight
deriving DecidableEq, Repr

namespace Tile

/-- The glyph's colour in its column `j` and row `i`: the low six bits of a row run from left to
right, the highest of them first. -/
def colorAt (t : Tile) (j i : Nat) : UInt8 :=
  if (t.bitmap[i]?.getD 0).toNat.testBit (tileWidth - 1 - j) then t.setColor else t.clearColor

def region (t : Tile) : Region := Region.tile t.row.toNat t.column.toNat

/-- The tile lies on the tile grid. -/
def onGrid (t : Tile) : Bool :=
  decide (t.row.toNat < tileRows) && decide (t.column.toNat < tileColumns)

theorem onGrid_iff {t : Tile} :
    t.onGrid = true ↔ t.row.toNat < tileRows ∧ t.column.toNat < tileColumns := by
  simp [onGrid]

end Tile

/-- How a tile's colours meet the picture's. -/
inductive TileMode where
  | replace
  | xor
deriving DecidableEq, Repr

/-- A move of the picture and the fine offsets it is shown with. -/
structure Scroll where
  color : UInt8
  horizontal : HorizontalMove
  hOffset : UInt8
  vertical : VerticalMove
  vOffset : UInt8
deriving DecidableEq, Repr

/-- The move of a scroll, to the right and down. -/
def Scroll.shift (s : Scroll) : Int × Int := (s.horizontal.delta, s.vertical.delta)

/-- What a scroll puts into the cells it uncovers: its colour, or what left at the far edge. -/
inductive ScrollMode where
  | preset
  | copy
deriving DecidableEq, Repr

/-- A half of the palette. -/
inductive PaletteHalf where
  | low
  | high
deriving DecidableEq, Repr

/-- The first palette entry of a half. -/
def PaletteHalf.base : PaletteHalf → Nat
  | low => 0
  | high => 8

/-- One decoded packet. -/
inductive Instruction where
  | noop
  | memoryPreset (color repetition : UInt8)
  | borderPreset (color : UInt8)
  | tile (mode : TileMode) (tile : Tile)
  | scroll (mode : ScrollMode) (scroll : Scroll)
  | setKeyColor (color : UInt8)
  | loadColors (half : PaletteHalf) (colors : Vector Nibbles 8)
deriving DecidableEq, Repr

namespace Instruction

/-- The opcode that carries an instruction. -/
def opcode : Instruction → Opcode
  | noop => .noop
  | memoryPreset .. => .memoryPreset
  | borderPreset _ => .borderPreset
  | tile .replace _ => .tileBlock
  | tile .xor _ => .tileBlockXor
  | scroll .preset _ => .scrollPreset
  | scroll .copy _ => .scrollCopy
  | setKeyColor _ => .setKeyColor
  | loadColors .low _ => .loadColorsLow
  | loadColors .high _ => .loadColorsHigh

/-- The name a listing shows. -/
def name (i : Instruction) : String := i.opcode.name

end Instruction

/-- Every field of a tile is one that a packet can carry; bitmap bytes are free. -/
structure Tile.InRange (t : Tile) : Prop where
  clearColor : t.clearColor < 16
  setColor : t.setColor < 16
  row : t.row < 32
  column : t.column < 64

/-- Every field of a scroll is one that a packet can carry. -/
structure Scroll.InRange (s : Scroll) : Prop where
  color : s.color < 16
  hOffset : s.hOffset ≤ 5
  vOffset : s.vOffset ≤ 11

/-- Every field is one that a packet can carry. -/
def Instruction.InRange : Instruction → Prop
  | .noop => True
  | .memoryPreset color repetition => color < 16 ∧ repetition < 16
  | .borderPreset color => color < 16
  | .tile _ t => t.InRange
  | .scroll _ s => s.InRange
  | .setKeyColor color => color < 16
  | .loadColors _ colors => ∀ c ∈ colors.toList, c.fits = true

instance (t : Tile) : Decidable t.InRange :=
  decidable_of_iff (t.clearColor < 16 ∧ t.setColor < 16 ∧ t.row < 32 ∧ t.column < 64)
    ⟨fun ⟨h1, h2, h3, h4⟩ => ⟨h1, h2, h3, h4⟩, fun ⟨h1, h2, h3, h4⟩ => ⟨h1, h2, h3, h4⟩⟩

instance (s : Scroll) : Decidable s.InRange :=
  decidable_of_iff (s.color < 16 ∧ s.hOffset ≤ 5 ∧ s.vOffset ≤ 11)
    ⟨fun ⟨h1, h2, h3⟩ => ⟨h1, h2, h3⟩, fun ⟨h1, h2, h3⟩ => ⟨h1, h2, h3⟩⟩

instance : (i : Instruction) → Decidable i.InRange
  | .noop => .isTrue trivial
  | .memoryPreset color repetition => inferInstanceAs (Decidable (color < 16 ∧ repetition < 16))
  | .borderPreset color => inferInstanceAs (Decidable (color < 16))
  | .tile _ t => inferInstanceAs (Decidable t.InRange)
  | .scroll _ s => inferInstanceAs (Decidable s.InRange)
  | .setKeyColor color => inferInstanceAs (Decidable (color < 16))
  | .loadColors _ colors => inferInstanceAs (Decidable (∀ c ∈ colors.toList, c.fits = true))

end CdGraphics
