/-!
# Diagnostics

What a stream held that a player passes over: an opcode nobody registered, a tile aimed outside
the picture, a tail too short for a packet. Reporting one never changes what is decoded or drawn.
-/

namespace CdGraphics

/-- A recoverable condition met while decoding or drawing. -/
inductive Diagnostic where
  /-- An opcode absent from the table, with the packet's index where it is known. -/
  | unknownOpcode (packet : Option Nat) (opcode : UInt8)
  /-- A tile aimed outside the picture, which was not drawn. -/
  | outOfBounds (row column : UInt8)
  /-- Bytes after the last full packet, which were dropped. -/
  | truncated (trailing : Nat)
deriving DecidableEq, Repr

def Diagnostic.text : Diagnostic → String
  | .unknownOpcode (some packet) opcode =>
    s!"unknown CDG instruction {opcode.toNat} at packet {packet}"
  | .unknownOpcode none opcode => s!"unknown CDG instruction {opcode.toNat}"
  | .outOfBounds row column =>
    s!"tile block out of bounds (row {row.toNat}, column {column.toNat})"
  | .truncated trailing => s!"dropped {trailing} trailing bytes of partial packet"

end CdGraphics
