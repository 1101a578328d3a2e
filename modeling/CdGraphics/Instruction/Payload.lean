import CdGraphics.Instruction.Basic
import CdGraphics.Packet

/-!
# Instructions in payloads

Where the fields of each instruction lie in a packet's 16 payload bytes, read by
`Instruction.ofPayload` and written by `Instruction.payload`. Only the low six bits of a byte belong
to the channel; a tile's bitmap bytes are kept whole, and drawing reads six bits of each.
-/

namespace CdGraphics

/-- The six bits of a byte that the channel carries. -/
def channelBits (b : UInt8) : UInt8 := b &&& 0x3f

/-- A colour's four bits. -/
def colorBits (b : UInt8) : UInt8 := b &&& 0x0f

namespace HorizontalMove

/-- The move of a scroll command; an unused command asks for none. -/
def ofCommand (command : UInt8) : HorizontalMove :=
  if command = 1 then right else if command = 2 then left else none

def command : HorizontalMove → UInt8
  | none => 0
  | right => 1
  | left => 2

theorem ofCommand_command (m : HorizontalMove) : ofCommand m.command = m := by
  cases m <;> decide

end HorizontalMove

namespace VerticalMove

/-- The move of a scroll command; an unused command asks for none. -/
def ofCommand (command : UInt8) : VerticalMove :=
  if command = 1 then down else if command = 2 then up else none

def command : VerticalMove → UInt8
  | none => 0
  | down => 1
  | up => 2

theorem ofCommand_command (m : VerticalMove) : ofCommand m.command = m := by
  cases m <;> decide

/-- The vertical move that one command asks for where it also asks for the horizontal one. -/
def matching : HorizontalMove → VerticalMove
  | .none => none
  | .right => down
  | .left => up

theorem ofCommand_eq_matching (c : UInt8) :
    ofCommand c = matching (HorizontalMove.ofCommand c) := by
  unfold ofCommand HorizontalMove.ofCommand
  split
  · rfl
  · split <;> rfl

end VerticalMove

/-- A tile's fields: two colours, its row and column, and the bitmap. -/
def Tile.ofPayload (p : Payload) : Tile where
  clearColor := colorBits p[0]
  setColor := colorBits p[1]
  row := p[2] &&& 0x1f
  column := channelBits p[3]
  bitmap := #v[p[4], p[5], p[6], p[7], p[8], p[9], p[10], p[11], p[12], p[13], p[14], p[15]]

/-- The command in a scroll field. -/
def scrollCommand (field : UInt8) : UInt8 := (channelBits field &&& 0x30) >>> 4

/-- A scroll's fields: the colour, then a command and a fine offset for each axis. Offsets beyond
the last cell of a tile count as the last. -/
def Scroll.ofPayload (source : VerticalSource) (p : Payload) : Scroll where
  color := colorBits p[0]
  horizontal := .ofCommand (scrollCommand p[1])
  hOffset := min (channelBits p[1] &&& 0x07) 5
  vertical := .ofCommand <| match source with
    | .verticalField => scrollCommand p[2]
    | .horizontalField => scrollCommand p[1]
  vOffset := min (channelBits p[2] &&& 0x0f) 11

/-- A colour's twelve bits, split over two bytes: the four of red and the upper two of green, then
the lower two of green and the four of blue. -/
def Nibbles.ofPair (high low : UInt8) : Nibbles :=
  let value : UInt16 := (channelBits high).toUInt16 <<< 6 ||| (channelBits low).toUInt16
  ⟨(value >>> 8).toUInt8, ((value &&& 0xf0) >>> 4).toUInt8, (value &&& 0x0f).toUInt8⟩

/-- The two bytes of a colour. -/
def Nibbles.pair (c : Nibbles) : UInt8 × UInt8 :=
  (c.red <<< 2 ||| c.green >>> 2, (c.green &&& 0x03) <<< 4 ||| c.blue)

/-- Eight colours, two bytes each. -/
def colorsOfPayload (p : Payload) : Vector Nibbles 8 :=
  #v[.ofPair p[0] p[1], .ofPair p[2] p[3], .ofPair p[4] p[5], .ofPair p[6] p[7],
    .ofPair p[8] p[9], .ofPair p[10] p[11], .ofPair p[12] p[13], .ofPair p[14] p[15]]

namespace Instruction

/-- The instruction of an opcode that a payload carries. -/
def ofPayload (source : VerticalSource) (op : Opcode) (p : Payload) : Instruction :=
  match op with
  | .noop => .noop
  | .memoryPreset => .memoryPreset (colorBits p[0]) (colorBits p[1])
  | .borderPreset => .borderPreset (colorBits p[0])
  | .tileBlock => .tile .replace (.ofPayload p)
  | .tileBlockXor => .tile .xor (.ofPayload p)
  | .scrollPreset => .scroll .preset (.ofPayload source p)
  | .scrollCopy => .scroll .copy (.ofPayload source p)
  | .setKeyColor => .setKeyColor (colorBits p[0])
  | .loadColorsLow => .loadColors .low (colorsOfPayload p)
  | .loadColorsHigh => .loadColors .high (colorsOfPayload p)

/-- The leading bytes of a payload that holds an instruction; the rest are zero. -/
def payloadBytes : Instruction → List UInt8
  | .noop => []
  | .memoryPreset color repetition => [color, repetition]
  | .borderPreset color => [color]
  | .tile _ t => [t.clearColor, t.setColor, t.row, t.column] ++ t.bitmap.toList
  | .scroll _ s =>
    [s.color, s.horizontal.command <<< 4 ||| s.hOffset, s.vertical.command <<< 4 ||| s.vOffset]
  | .setKeyColor color => [color]
  | .loadColors _ colors => colors.toList.flatMap fun c => [c.pair.1, c.pair.2]

/-- A payload that holds an instruction. -/
def payload (i : Instruction) : Payload := Vector.ofFn fun k => i.payloadBytes[k.val]?.getD 0

/-- A graphics packet that holds an instruction, with zero parity. -/
def packet (i : Instruction) : Packet :=
  let head : Vector UInt8 payloadOffset := #v[graphicsCommand, i.opcode.code, 0, 0]
  let parity : Vector UInt8 4 := #v[0, 0, 0, 0]
  ⟨(head ++ i.payload ++ parity : Vector UInt8 (payloadOffset + payloadSize + 4))⟩

end Instruction

end CdGraphics
