import CdGraphics.Error
import CdGraphics.Text.Hex

/-!
# Packets

A stream is cut into packets of 24 bytes: a command, an opcode, two parity bytes, a payload of 16
bytes and four parity bytes. Parity is carried and never read. A stream's packets hold all of it
but a tail shorter than a packet (`packets_append`, `length_packets`).
-/

namespace CdGraphics

/-- Bytes of a packet. -/
abbrev packetSize : Nat := 24

/-- Offset of the payload in a packet. -/
abbrev payloadOffset : Nat := 4

/-- Bytes of a payload. -/
abbrev payloadSize : Nat := 16

/-- The bits of the first two bytes that carry the command and the opcode. -/
def commandMask : UInt8 := 0x3f

/-- The command of a graphics packet. -/
def graphicsCommand : UInt8 := 9

/-- The bytes of a packet that an instruction is read from. -/
abbrev Payload := Vector UInt8 payloadSize

/-- One packet of a stream. -/
structure Packet where
  bytes : Vector UInt8 packetSize
deriving DecidableEq, Repr

namespace Packet

def command (p : Packet) : UInt8 := p.bytes[0] &&& commandMask

def isGraphics (p : Packet) : Bool := p.command == graphicsCommand

def opcode (p : Packet) : UInt8 := p.bytes[1] &&& commandMask

theorem payloadOffset_add_lt {i : Nat} (h : i < payloadSize) : payloadOffset + i < packetSize := by
  simp only [payloadOffset, packetSize, payloadSize] at *
  omega

/-- The bytes between the parity bytes. -/
def payload (p : Packet) : Payload :=
  Vector.ofFn fun i =>
    have := payloadOffset_add_lt i.isLt
    p.bytes[payloadOffset + i.val]

theorem getElem_payload (p : Packet) {i : Nat} (h : i < payloadSize)
    (h' : payloadOffset + i < packetSize) : p.payload[i] = p.bytes[payloadOffset + i] := by
  simp [payload]

def hex (p : Packet) : String := Hex.text p.bytes.toList

/-- Reads a packet off exactly its bytes. -/
def ofList? (bytes : List UInt8) : Option Packet :=
  if h : bytes.length = packetSize then some ⟨bytes.toArray, by simpa using h⟩ else none

theorem ofList?_isSome {bytes : List UInt8} :
    (ofList? bytes).isSome = true ↔ bytes.length = packetSize := by
  unfold ofList?; split <;> simp_all

theorem length_of_ofList? {bytes : List UInt8} {p : Packet} (h : ofList? bytes = some p) :
    bytes.length = packetSize := ofList?_isSome.1 (by rw [h]; rfl)

theorem toList_of_ofList? {bytes : List UInt8} {p : Packet} (h : ofList? bytes = some p) :
    p.bytes.toList = bytes := by
  unfold ofList? at h
  split at h
  · cases h; rfl
  · cases h

@[simp]
theorem ofList?_toList (p : Packet) : ofList? p.bytes.toList = some p := by
  unfold ofList?
  split
  · cases p; rfl
  · simp_all

/-- The packet at an offset of a stream, which must have all of its bytes. -/
def atOffset (bytes : List UInt8) (offset : Nat) : Except Error Packet :=
  match ofList? ((bytes.drop offset).take packetSize) with
  | some p => .ok p
  | none =>
    .error (.validation s!"no full packet at offset {offset} (stream is {bytes.length} bytes)")

end Packet

/-- The full packets of a stream. -/
def packets (bytes : List UInt8) : List Packet :=
  match _h : Packet.ofList? (bytes.take packetSize) with
  | some p => p :: packets (bytes.drop packetSize)
  | none => []
termination_by bytes.length
decreasing_by
  have := Packet.length_of_ofList? _h
  simp only [List.length_take, List.length_drop, packetSize] at *
  omega

/-- Bytes of a stream after its last full packet. -/
def trailingBytes (bytes : List UInt8) : Nat := bytes.length % packetSize

theorem packets_of_length_lt {bytes : List UInt8} (h : bytes.length < packetSize) :
    packets bytes = [] := by
  rw [packets]
  split
  · rename_i p hp
    have := Packet.length_of_ofList? hp
    rw [List.length_take] at this
    omega
  · rfl

theorem packets_cons (p : Packet) (rest : List UInt8) :
    packets (p.bytes.toList ++ rest) = p :: packets rest := by
  have hl : p.bytes.toList.length = packetSize := by simp
  have ht : (p.bytes.toList ++ rest).take packetSize = p.bytes.toList := List.take_left' hl
  have hd : (p.bytes.toList ++ rest).drop packetSize = rest := List.drop_left' hl
  rw [packets]
  split
  · rename_i q hq
    rw [ht, Packet.ofList?_toList, Option.some.injEq] at hq
    rw [hd, hq]
  · rename_i hq
    rw [ht, Packet.ofList?_toList] at hq
    cases hq

/-- A stream is its first packet and what follows, or is shorter than a packet. -/
theorem packets_cases (bytes : List UInt8) :
    (∃ (p : Packet) (rest : List UInt8), bytes = p.bytes.toList ++ rest)
      ∨ bytes.length < packetSize := by
  by_cases h : bytes.length < packetSize
  · exact .inr h
  · have hl : (bytes.take packetSize).length = packetSize := by
      rw [List.length_take]; omega
    obtain ⟨p, hp⟩ := Option.isSome_iff_exists.1 (Packet.ofList?_isSome.2 hl)
    refine .inl ⟨p, bytes.drop packetSize, ?_⟩
    rw [Packet.toList_of_ofList? hp, List.take_append_drop]

/-- There is a packet for every 24 bytes. -/
theorem length_packets (bytes : List UInt8) :
    (packets bytes).length = bytes.length / packetSize := by
  rcases packets_cases bytes with ⟨p, rest, rfl⟩ | h
  · rw [packets_cons, List.length_cons, length_packets rest, List.length_append]
    simp only [Vector.length_toList, packetSize]
    omega
  · rw [packets_of_length_lt h]
    simp only [List.length_nil, packetSize] at *
    omega
termination_by bytes.length
decreasing_by
  subst_vars
  simp only [List.length_append, Vector.length_toList, packetSize]
  omega

/-- After whole packets a stream is cut as if it began there. -/
theorem packets_append {a : List UInt8} (b : List UInt8) (h : a.length % packetSize = 0) :
    packets (a ++ b) = packets a ++ packets b := by
  rcases packets_cases a with ⟨p, rest, rfl⟩ | hs
  · rw [List.append_assoc, packets_cons, packets_cons, packets_append b, List.cons_append]
    simp only [List.length_append, Vector.length_toList, packetSize] at *
    omega
  · have : a = [] := by
      rw [← List.length_eq_zero_iff]
      simp only [packetSize] at *
      omega
    subst this
    rw [packets_of_length_lt hs, List.nil_append, List.nil_append]
termination_by a.length
decreasing_by
  subst_vars
  simp only [List.length_append, Vector.length_toList, packetSize]
  omega

end CdGraphics
