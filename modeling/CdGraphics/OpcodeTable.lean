import CdGraphics.Diagnostic
import CdGraphics.Instruction.Payload

/-!
# Opcode tables

A table says what each of the 64 opcodes builds from a payload. With it a packet decodes to one
instruction: a packet of another command, or of an opcode that the table lacks, decodes to none
(`Instruction.noop`), so that a stream's instructions stay in step with time.
-/

namespace CdGraphics

/-- Builds an instruction from a payload. -/
abbrev Constructor := Payload → Instruction

/-- Opcodes that a table can hold. -/
abbrev opcodeCount : Nat := 64

/-- What each opcode builds, if it is registered. -/
structure OpcodeTable where
  entries : Vector (Option Constructor) opcodeCount

namespace OpcodeTable

/-- What an opcode builds. -/
def get? (t : OpcodeTable) (opcode : UInt8) : Option Constructor :=
  if h : opcode.toNat < opcodeCount then t.entries[opcode.toNat] else none

/-- The opcode is registered. -/
def contains (t : OpcodeTable) (opcode : UInt8) : Bool := (t.get? opcode).isSome

/-- The registered opcodes, ascending. -/
def opcodes (t : OpcodeTable) : List UInt8 :=
  ((List.range opcodeCount).map UInt8.ofNat).filter t.contains

/-- The registered opcodes in braces. -/
def text (t : OpcodeTable) : String :=
  "\x7b" ++ ", ".intercalate (t.opcodes.map fun opcode => toString opcode.toNat) ++ "\x7d"

/-- Changes what an opcode builds; a code beyond the table changes nothing. -/
def set (t : OpcodeTable) (opcode : UInt8) (entry : Option Constructor) : OpcodeTable :=
  ⟨t.entries.setIfInBounds opcode.toNat entry⟩

theorem get?_set (t : OpcodeTable) (opcode other : UInt8) (entry : Option Constructor) :
    (t.set opcode entry).get? other
      = if opcode = other ∧ other.toNat < opcodeCount then entry else t.get? other := by
  unfold get? set
  by_cases h : other.toNat < opcodeCount
  · simp only [h, dif_pos, and_true, Vector.getElem_setIfInBounds]
    simp only [UInt8.toNat_inj]
  · simp [h]

/-- No opcode is registered. -/
def empty : OpcodeTable := ⟨Vector.replicate opcodeCount none⟩

theorem get?_empty (opcode : UInt8) : empty.get? opcode = none := by
  unfold get? empty; split <;> simp

/-- Registers an opcode of six bits, replacing what it built before. -/
def register (t : OpcodeTable) (opcode : UInt8) (build : Constructor) : Except Error OpcodeTable :=
  if opcode.toNat < opcodeCount then .ok (t.set opcode (some build))
  else .error (.validation s!"opcode {opcode.toNat} does not fit in 6 bits")

/-- Drops an opcode, whether or not it is registered. -/
def erase (t : OpcodeTable) (opcode : UInt8) : OpcodeTable := t.set opcode none

/-- Registers both scrolls, their vertical command read from the given field. -/
def withVerticalSource (t : OpcodeTable) (source : VerticalSource) : OpcodeTable :=
  (t.set Opcode.scrollPreset.code (some (Instruction.ofPayload source .scrollPreset))).set
    Opcode.scrollCopy.code (some (Instruction.ofPayload source .scrollCopy))

/-- All ten instructions, the vertical scroll command read from its own field. -/
def standard : OpcodeTable :=
  Opcode.all.foldl (fun t op => t.set op.code (some (Instruction.ofPayload .verticalField op)))
    empty

instance : Inhabited OpcodeTable := ⟨standard⟩

/-- A step in building a table. -/
inductive Step where
  | register (opcode : UInt8) (build : Constructor)
  | erase (opcode : UInt8)
  | verticalSource (source : VerticalSource)

def step (t : OpcodeTable) : Step → Except Error OpcodeTable
  | .register opcode build => t.register opcode build
  | .erase opcode => .ok (t.erase opcode)
  | .verticalSource source => .ok (t.withVerticalSource source)

/-- Takes steps in order; the first that fails decides. -/
def build (t : OpcodeTable) (steps : List Step) : Except Error OpcodeTable := steps.foldlM step t

/-! ## Decoding -/

/-- Decodes a packet; the index is what a diagnostic says of its place. -/
def decode (t : OpcodeTable) (p : Packet) (index : Option Nat) : Instruction × List Diagnostic :=
  if p.isGraphics then
    match t.get? p.opcode with
    | some build => (build p.payload, [])
    | none => (.noop, [.unknownOpcode index p.opcode])
  else (.noop, [])

/-- Decodes the packet at an offset of a stream. A diagnostic has a packet index only where the
offset is a multiple of the packet size. -/
def decodePacket (t : OpcodeTable) (bytes : List UInt8) (offset : Nat) :
    Instruction × List Diagnostic :=
  match Packet.atOffset bytes offset with
  | .ok p => t.decode p (if offset % packetSize = 0 then some (offset / packetSize) else none)
  | .error _ => (.noop, [.truncated (bytes.length - offset)])

/-- What is reported of a stream's tail. -/
def tailDiagnostics (bytes : List UInt8) : List Diagnostic :=
  if trailingBytes bytes = 0 then [] else [.truncated (trailingBytes bytes)]

/-- Decodes every full packet of a stream. -/
def decodeStream (t : OpcodeTable) (bytes : List UInt8) : List Instruction × List Diagnostic :=
  let decoded := (packets bytes).mapIdx fun index p => t.decode p (some index)
  (decoded.map Prod.fst, decoded.flatMap Prod.snd ++ tailDiagnostics bytes)

/-- There is an instruction for every packet. -/
theorem length_decodeStream (t : OpcodeTable) (bytes : List UInt8) :
    (t.decodeStream bytes).1.length = bytes.length / packetSize := by
  simp [decodeStream, length_packets]

end OpcodeTable

end CdGraphics
