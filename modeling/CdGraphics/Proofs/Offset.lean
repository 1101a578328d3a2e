import CdGraphics.OpcodeTable
import Mathlib.Data.List.Basic

/-!
# Decoding at an offset

A stream can be decoded as a whole, or packet by packet at offsets of one's own choosing. Both cut
it alike (`getElem?_packets`), so that decoding the whole is decoding at every multiple of the
packet size in turn, and reporting what is left over (`decodeStream_eq_decodePacket`). What is
reported of a packet depends on its place only through the index (`decode_shift`), which makes
decoding whole packets and then more of a stream two decodings in a row.
-/

namespace CdGraphics

/-- The diagnostic of a packet that comes so many packets later. -/
def Diagnostic.shift (count : Nat) : Diagnostic → Diagnostic
  | unknownOpcode (some packet) opcode => unknownOpcode (some (packet + count)) opcode
  | d => d

variable {bytes : List UInt8} {p : Packet} {offset : Nat}

/-! ## Cutting -/

theorem Packet.ofList?_eq_none (h : bytes.length ≠ packetSize) : ofList? bytes = none := by
  rw [← Option.not_isSome_iff_eq_none, ofList?_isSome]
  exact h

/-- The packets of a stream are what stands at the multiples of the packet size. -/
theorem getElem?_packets (i : Nat) : ∀ bytes : List UInt8,
    (packets bytes)[i]?
      = Packet.ofList? ((bytes.drop (packetSize * i)).take packetSize) := by
  induction i with
  | zero =>
    intro bytes
    rw [Nat.mul_zero, List.drop_zero]
    rcases packets_cases bytes with ⟨p, rest, rfl⟩ | h
    · rw [packets_cons, List.take_left' (by simp), Packet.ofList?_toList]
      rfl
    · rw [packets_of_length_lt h, Packet.ofList?_eq_none]
      · rfl
      · rw [List.length_take]
        omega
  | succ i ih =>
    intro bytes
    rcases packets_cases bytes with ⟨p, rest, rfl⟩ | h
    · have hdrop : (p.bytes.toList ++ rest).drop (packetSize * (i + 1))
          = rest.drop (packetSize * i) := by
        rw [Nat.mul_succ, Nat.add_comm, ← List.drop_drop, List.drop_left' (by simp)]
      rw [packets_cons, List.getElem?_cons_succ, ih, hdrop]
    · rw [packets_of_length_lt h, Packet.ofList?_eq_none]
      · rfl
      · rw [List.length_take, List.length_drop, Nat.mul_succ]
        omega

theorem getElem?_of_packet (h : Packet.ofList? ((bytes.drop offset).take packetSize) = some p)
    {j : Nat} (hj : j < packetSize) : bytes[offset + j]? = some p.bytes[j] := by
  have hp := congrArg (fun l : List UInt8 => l[j]?) (Packet.toList_of_ofList? h)
  simp only [List.getElem?_take_of_lt hj, List.getElem?_drop] at hp
  rw [← hp, Vector.getElem?_toList, Vector.getElem?_eq_getElem hj]

namespace OpcodeTable

variable (t : OpcodeTable)

/-! ## One packet -/

/-- Only an unknown opcode of a graphics packet is reported. -/
theorem decode_snd (p : Packet) (index : Option Nat) : (t.decode p index).2
    = if p.command = graphicsCommand ∧ t.get? p.opcode = none then
        [.unknownOpcode index p.opcode]
      else [] := by
  unfold decode Packet.isGraphics
  by_cases hg : p.command = graphicsCommand
  · cases t.get? p.opcode <;> simp [hg]
  · simp [hg]

theorem decode_fst (p : Packet) (index other : Option Nat) :
    (t.decode p index).1 = (t.decode p other).1 := by
  unfold decode
  split
  · cases t.get? p.opcode <;> rfl
  · rfl

theorem decode_shift (p : Packet) (index count : Nat) : t.decode p (some (index + count))
    = ((t.decode p (some index)).1, (t.decode p (some index)).2.map (Diagnostic.shift count)) := by
  refine Prod.ext (t.decode_fst p _ _) ?_
  simp only [decode_snd]
  split <;> rfl

theorem decodePacket_of_packet
    (h : Packet.ofList? ((bytes.drop offset).take packetSize) = some p) :
    t.decodePacket bytes offset
      = t.decode p (if packetSize ∣ offset then some (offset / packetSize) else none) := by
  unfold decodePacket Packet.atOffset
  rw [h]
  simp only [Nat.dvd_iff_mod_eq_zero]

/-- Fewer bytes than a packet are no instruction. -/
theorem decodePacket_of_short (h : bytes.length < offset + packetSize) :
    t.decodePacket bytes offset = (.noop, [.truncated (bytes.length - offset)]) := by
  have hnone : Packet.ofList? ((bytes.drop offset).take packetSize) = none := by
    apply Packet.ofList?_eq_none
    rw [List.length_take, List.length_drop]
    simp only [packetSize] at *
    omega
  unfold decodePacket Packet.atOffset
  rw [hnone]

theorem exists_packet (h : offset + packetSize ≤ bytes.length) :
    ∃ p, Packet.ofList? ((bytes.drop offset).take packetSize) = some p := by
  apply Option.isSome_iff_exists.1
  rw [Packet.ofList?_isSome, List.length_take, List.length_drop]
  omega

theorem decodePacket_snd (h : offset + packetSize ≤ bytes.length) :
    ∃ command opcode, bytes[offset]? = some command ∧ bytes[offset + 1]? = some opcode
      ∧ (t.decodePacket bytes offset).2
        = if command &&& commandMask = graphicsCommand ∧ t.get? (opcode &&& commandMask) = none then
            [.unknownOpcode (if packetSize ∣ offset then some (offset / packetSize) else none)
              (opcode &&& commandMask)]
          else [] := by
  obtain ⟨p, hp⟩ := exists_packet h
  refine ⟨p.bytes[0], p.bytes[1], getElem?_of_packet (j := 0) hp (by decide),
    getElem?_of_packet (j := 1) hp (by decide), ?_⟩
  rw [t.decodePacket_of_packet hp, decode_snd]
  rfl

/-! ## The whole stream -/

theorem mapIdx_decode (bytes : List UInt8) :
    ((packets bytes).mapIdx fun index p => t.decode p (some index))
      = (List.range (bytes.length / packetSize)).map fun i =>
        t.decodePacket bytes (packetSize * i) := by
  refine List.ext_getElem? fun i => ?_
  rw [List.getElem?_mapIdx, List.getElem?_map]
  by_cases hi : i < bytes.length / packetSize
  · obtain ⟨p, hp⟩ : ∃ p, (packets bytes)[i]? = some p :=
      ⟨_, List.getElem?_eq_getElem (by rwa [length_packets])⟩
    rw [hp, List.getElem?_range hi]
    rw [getElem?_packets] at hp
    simp only [Option.map_some, t.decodePacket_of_packet hp, Nat.dvd_mul_right, if_true,
      Nat.mul_div_cancel_left i (show 0 < packetSize by decide)]
  · rw [List.getElem?_eq_none (by rw [length_packets]; omega),
      List.getElem?_eq_none (by rw [List.length_range]; omega)]
    rfl

theorem tailDiagnostics_eq (bytes : List UInt8) : tailDiagnostics bytes
    = if 0 < bytes.length % packetSize then [.truncated (bytes.length % packetSize)] else [] := by
  unfold tailDiagnostics trailingBytes
  by_cases h : bytes.length % packetSize = 0
  · simp [h]
  · rw [if_neg h, if_pos (Nat.pos_of_ne_zero h)]

/-- After whole packets a stream decodes as if it began there, but for its packets' indices. -/
theorem decodeStream_append {a : List UInt8} (b : List UInt8) (ha : a.length % packetSize = 0) :
    t.decodeStream (a ++ b) = ((t.decodeStream a).1 ++ (t.decodeStream b).1,
      (t.decodeStream a).2
        ++ (t.decodeStream b).2.map (Diagnostic.shift (a.length / packetSize))) := by
  have htail : tailDiagnostics (a ++ b) = tailDiagnostics b := by
    rw [tailDiagnostics_eq, tailDiagnostics_eq, List.length_append, Nat.add_mod, ha, Nat.zero_add,
      Nat.mod_mod]
  have hnone : tailDiagnostics a = [] := by
    rw [tailDiagnostics_eq, ha]
    rfl
  have hshift : (tailDiagnostics b).map (Diagnostic.shift (a.length / packetSize))
      = tailDiagnostics b := by
    rw [tailDiagnostics_eq]
    split <;> rfl
  have hb : ((packets b).mapIdx fun i p => t.decode p (some (i + a.length / packetSize)))
      = ((packets b).mapIdx fun i p => t.decode p (some i)).map fun decoded =>
        (decoded.1, decoded.2.map (Diagnostic.shift (a.length / packetSize))) := by
    refine List.ext_getElem? fun i => ?_
    simp only [List.getElem?_map, List.getElem?_mapIdx, decode_shift, Option.map_map]
    rfl
  simp only [decodeStream, packets_append b ha, List.mapIdx_append, length_packets, hb, htail,
    hnone, List.map_append, List.map_map, List.flatMap_append, List.flatMap_map, List.map_flatMap,
    hshift, List.append_assoc, List.nil_append]
  rfl

/-- Decoding a stream gives for every full packet what decoding at its offset gives, and reports
what these report in their order, and then the tail if there is one. At an offset with a packet's
bytes ahead, only an unknown opcode of a graphics packet is reported, and its index just where the
offset is a multiple of the packet size; so the packet of index `i` is reported under it. With fewer
bytes ahead, at whatever offset, there is no instruction and a report of how few they are. After
whole packets, then, a stream decodes as one that begins there, its packets' indices shifted. -/
theorem decodeStream_eq_decodePacket (bytes : List UInt8) :
    (t.decodeStream bytes).1 = ((List.range (bytes.length / packetSize)).map fun i =>
        (t.decodePacket bytes (packetSize * i)).1)
    ∧ (t.decodeStream bytes).2 = ((List.range (bytes.length / packetSize)).flatMap fun i =>
        (t.decodePacket bytes (packetSize * i)).2)
      ++ (if 0 < bytes.length % packetSize then [.truncated (bytes.length % packetSize)] else [])
    ∧ (∀ i < bytes.length / packetSize, ∃ command opcode, bytes[packetSize * i]? = some command
      ∧ bytes[packetSize * i + 1]? = some opcode
      ∧ (t.decodePacket bytes (packetSize * i)).2
        = if command &&& commandMask = graphicsCommand ∧ t.get? (opcode &&& commandMask) = none then
            [.unknownOpcode (some i) (opcode &&& commandMask)]
          else [])
    ∧ (∀ a b : List UInt8, a.length % packetSize = 0 →
      t.decodeStream (a ++ b) = ((t.decodeStream a).1 ++ (t.decodeStream b).1,
        (t.decodeStream a).2
          ++ (t.decodeStream b).2.map (Diagnostic.shift (a.length / packetSize))))
    ∧ (∀ offset, bytes.length < offset + packetSize →
      t.decodePacket bytes offset = (.noop, [.truncated (bytes.length - offset)]))
    ∧ (∀ offset, offset + packetSize ≤ bytes.length → ∃ command opcode,
      bytes[offset]? = some command ∧ bytes[offset + 1]? = some opcode
      ∧ (t.decodePacket bytes offset).2
        = if command &&& commandMask = graphicsCommand ∧ t.get? (opcode &&& commandMask) = none then
            [.unknownOpcode (if packetSize ∣ offset then some (offset / packetSize) else none)
              (opcode &&& commandMask)]
          else []) := by
  refine ⟨?_, ?_, fun i hi => ?_, fun a b => t.decodeStream_append b,
    fun offset => t.decodePacket_of_short, fun offset => t.decodePacket_snd⟩
  · simp only [decodeStream, mapIdx_decode, List.map_map]
    rfl
  · simp only [decodeStream, mapIdx_decode, List.flatMap_map, tailDiagnostics_eq]
  · have hi' : packetSize * i + packetSize ≤ bytes.length := by
      simp only [packetSize] at *
      omega
    obtain ⟨command, opcode, hc, ho, hd⟩ := t.decodePacket_snd hi'
    refine ⟨command, opcode, hc, ho, ?_⟩
    rw [hd, if_pos (Nat.dvd_mul_right packetSize i),
      Nat.mul_div_cancel_left i (show 0 < packetSize by decide)]

/-- A packet of an unknown opcode, and after it another and a tail; at an offset of one byte there
is a packet too, and at the last offset that 64 bits hold there is none. -/
theorem decodeStream_eq_decodePacket_cut :
    let a : List UInt8 := 9 :: 5 :: List.replicate 22 255
    let b : List UInt8 := (73 :: 69 :: List.replicate 22 0) ++ [9, 1, 2]
    a.length % packetSize = 0
      ∧ standard.decodeStream (a ++ b)
        = ((standard.decodeStream a).1 ++ (standard.decodeStream b).1, (standard.decodeStream a).2
          ++ (standard.decodeStream b).2.map (Diagnostic.shift (a.length / packetSize)))
      ∧ standard.decodeStream (a ++ b) = ([.noop, .noop],
        [.unknownOpcode (some 0) 5, .unknownOpcode (some 1) 5, .truncated 3])
      ∧ (standard.decodePacket (a ++ b) 1).2 = []
      ∧ standard.decodePacket (a ++ b) 18446744073709551615 = (.noop, [.truncated 0]) := by
  intro a b
  obtain ⟨-, -, -, happend, hshort, hat⟩ := decodeStream_eq_decodePacket standard (a ++ b)
  have ha : a.length % packetSize = 0 := by decide
  refine ⟨ha, happend a b ha, by decide +kernel, ?_, ?_⟩
  · obtain ⟨command, opcode, hc, -, hd⟩ := hat 1 (by decide)
    obtain rfl : 5 = command := Option.some.inj hc
    rw [hd]
    rfl
  · rw [hshort 18446744073709551615 (by decide), Nat.sub_eq_zero_of_le (by decide)]

end OpcodeTable

end CdGraphics
