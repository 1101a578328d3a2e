import CdGraphics.Instruction.Text
import CdGraphics.Proofs.InRange
import CdGraphics.Proofs.SafeDrawing
import Mathlib.Data.List.Forall2

/-!
# What the channel does not carry

The two upper bits of a byte, parity bytes and a stream's tail do not reach the picture. Fields are
masked as they are read, all but a tile's bitmap, which drawing reads six bits of each byte of;
`Instruction.masked` masks that too. Strings that agree in what the channel carries decode to
instructions that agree once masked, and masking changes neither an instruction's listing nor what
it draws, so nothing tells such strings apart (`decodeStream_channelEqual`).
-/

namespace CdGraphics

/-- The byte of a packet belongs to its command, its opcode or its payload. -/
def Carried (j : Nat) : Prop := j < 2 ∨ payloadOffset ≤ j ∧ j < payloadOffset + payloadSize

instance (j : Nat) : Decidable (Carried j) := by unfold Carried; infer_instance

/-- Two strings of one length agree in the six low bits of the bytes of full packets that are not
parity. -/
structure ChannelEqual (a b : List UInt8) : Prop where
  length_eq : a.length = b.length
  bits : ∀ k j, k < a.length / packetSize → Carried j →
    (a[k * packetSize + j]?).map channelBits = (b[k * packetSize + j]?).map channelBits

def Packet.ChannelEqual (p q : Packet) : Prop :=
  ∀ (j : Nat) (h : j < packetSize), Carried j → channelBits p.bytes[j] = channelBits q.bytes[j]

def Tile.masked (t : Tile) : Tile := { t with bitmap := t.bitmap.map channelBits }

/-- The instruction with nothing in a bitmap but what the channel carries. -/
def Instruction.masked : Instruction → Instruction
  | .tile mode t => .tile mode t.masked
  | i => i

/-! ## Bits -/

theorem channelBits_idem (b : UInt8) : channelBits (channelBits b) = channelBits b := by
  simp only [channelBits, UInt8.and_assoc, UInt8.and_self]

theorem colorBits_channelBits (b : UInt8) : colorBits (channelBits b) = colorBits b := by
  rw [colorBits, colorBits, channelBits, UInt8.and_assoc]
  rfl

theorem rowBits_channelBits (b : UInt8) : channelBits b &&& 0x1f = b &&& 0x1f := by
  rw [channelBits, UInt8.and_assoc]
  rfl

theorem testBit_channelBits (b : UInt8) {j : Nat} (h : j < 6) :
    (channelBits b).toNat.testBit j = b.toNat.testBit j := by
  rw [toNat_channelBits, show 64 = 2 ^ 6 from rfl, Nat.testBit_mod_two_pow]
  simp [h]

/-! ## Masking -/

theorem Tile.colorAt_masked (t : Tile) (j i : Nat) : t.masked.colorAt j i = t.colorAt j i := by
  have hb : (t.masked.bitmap[i]?.getD 0).toNat.testBit (tileWidth - 1 - j)
      = (t.bitmap[i]?.getD 0).toNat.testBit (tileWidth - 1 - j) := by
    rw [Tile.masked, Vector.getElem?_map]
    cases t.bitmap[i]? with
    | none => rfl
    | some b => exact testBit_channelBits b (by simp only [tileWidth]; omega)
  unfold colorAt
  rw [hb]
  rfl

theorem Tile.paintColor_masked (t : Tile) (mode : TileMode) :
    t.masked.paintColor mode = t.paintColor mode := by
  funext x y old
  rw [paintColor, paintColor, colorAt_masked]

theorem Raster.drawTile_masked (r : Raster) (mode : TileMode) (t : Tile) :
    r.drawTile mode t.masked = r.drawTile mode t := by
  have hf : t.masked.fault? mode r.plane = t.fault? mode r.plane := by
    unfold Tile.fault?
    rw [t.paintColor_masked mode]
    rfl
  unfold Raster.drawTile
  rw [hf, t.paintColor_masked mode]
  rfl

theorem Tile.masked_ofPayload (p : Payload) :
    (ofPayload p).masked = ofPayload (p.map channelBits) := by
  simp [masked, ofPayload, colorBits_channelBits, rowBits_channelBits, channelBits_idem]

theorem Scroll.ofPayload_map (source : VerticalSource) (p : Payload) :
    ofPayload source (p.map channelBits) = ofPayload source p := by
  cases source <;>
    simp only [ofPayload, scrollCommand, Vector.getElem_map, colorBits_channelBits,
      channelBits_idem]

theorem Nibbles.ofPair_channelBits (high low : UInt8) :
    ofPair (channelBits high) (channelBits low) = ofPair high low := by
  simp only [ofPair, channelBits_idem]

theorem colorsOfPayload_map (p : Payload) :
    colorsOfPayload (p.map channelBits) = colorsOfPayload p := by
  simp only [colorsOfPayload, Vector.getElem_map, Nibbles.ofPair_channelBits]

namespace Instruction

theorem opcode_masked (i : Instruction) : i.masked.opcode = i.opcode := by
  cases i with
  | tile mode t => cases mode <;> rfl
  | _ => rfl

theorem text_masked (i : Instruction) : i.masked.text = i.text := by
  cases i with
  | tile mode t => cases mode <;> rfl
  | _ => rfl

theorem apply_masked (i : Instruction) (r : Raster) : i.masked.apply r = i.apply r := by
  cases i with
  | tile mode t => exact r.drawTile_masked mode t
  | _ => rfl

/-- Masking what was read is reading what is masked. -/
theorem masked_ofPayload (source : VerticalSource) (op : Opcode) (p : Payload) :
    (ofPayload source op p).masked = ofPayload source op (p.map channelBits) := by
  cases op with
  | noop => rfl
  | memoryPreset | borderPreset | setKeyColor =>
    simp only [ofPayload, masked, Vector.getElem_map, colorBits_channelBits]
  | tileBlock | tileBlockXor => rw [ofPayload, ofPayload, masked, Tile.masked_ofPayload]
  | scrollPreset | scrollCopy =>
    rw [ofPayload, ofPayload, Scroll.ofPayload_map]
    rfl
  | loadColorsLow | loadColorsHigh =>
    rw [ofPayload, ofPayload, colorsOfPayload_map]
    rfl

end Instruction

theorem Raster.execute_masked (l : List Instruction) : ∀ r : Raster,
    r.execute (l.map Instruction.masked) = r.execute l := by
  induction l with
  | nil => exact fun r => rfl
  | cons i rest ih =>
    intro r
    simp only [List.map_cons, Raster.execute, Instruction.apply_masked, ih]

/-! ## Packets -/

variable {p q : Packet} {a b : List UInt8} {t : OpcodeTable}

namespace Packet.ChannelEqual

theorem isGraphics_eq (h : p.ChannelEqual q) : p.isGraphics = q.isGraphics := by
  have h0 : p.command = q.command := h 0 (by decide) (by decide)
  rw [isGraphics, isGraphics, h0]

theorem opcode_eq (h : p.ChannelEqual q) : p.opcode = q.opcode := h 1 (by decide) (by decide)

theorem payload_eq (h : p.ChannelEqual q) :
    p.payload.map channelBits = q.payload.map channelBits := by
  refine Vector.ext fun i hi => ?_
  have hi' := payloadOffset_add_lt hi
  rw [Vector.getElem_map, Vector.getElem_map, p.getElem_payload hi hi', q.getElem_payload hi hi']
  exact h _ hi' (.inr ⟨Nat.le_add_right .., Nat.add_lt_add_left hi _⟩)

end Packet.ChannelEqual

/-- What is left of a string's first packet is channel equal to what is left of the other's. -/
theorem ChannelEqual.packet (h : ChannelEqual (p.bytes.toList ++ a) (q.bytes.toList ++ b)) :
    p.ChannelEqual q ∧ ChannelEqual a b := by
  have hp : p.bytes.toList.length = packetSize := Vector.length_toList ..
  have hq : q.bytes.toList.length = packetSize := Vector.length_toList ..
  have hl : a.length = b.length := by simpa [hp, hq] using h.length_eq
  have hd : (p.bytes.toList ++ a).length / packetSize = a.length / packetSize + 1 := by
    rw [List.length_append, hp, Nat.add_comm, Nat.add_div_right _ (by decide)]
  refine ⟨fun j hj hc => ?_, hl, fun k j hk hc => ?_⟩
  · have h0 := h.bits 0 j (by rw [hd]; exact Nat.succ_pos _) hc
    rw [Nat.zero_mul, Nat.zero_add, List.getElem?_append_left (by omega),
      List.getElem?_append_left (by omega), List.getElem?_eq_getElem (by omega),
      List.getElem?_eq_getElem (by omega)] at h0
    simpa using h0
  · have h1 := h.bits (k + 1) j (by rw [hd]; exact Nat.succ_lt_succ hk) hc
    rw [Nat.succ_mul, Nat.add_right_comm, List.getElem?_append_right (by omega),
      List.getElem?_append_right (by omega), hp, hq, Nat.add_sub_cancel] at h1
    exact h1

theorem ChannelEqual.forall₂_packets {a b : List UInt8} (h : ChannelEqual a b) :
    List.Forall₂ Packet.ChannelEqual (packets a) (packets b) := by
  have hl := h.length_eq
  rcases packets_cases a with ⟨p, a, rfl⟩ | ha
  · rcases packets_cases b with ⟨q, b, rfl⟩ | hb
    · obtain ⟨hpq, hab⟩ := h.packet
      rw [packets_cons, packets_cons]
      exact .cons hpq hab.forall₂_packets
    · simp only [List.length_append, Vector.length_toList] at hl
      omega
  · rw [packets_of_length_lt ha, packets_of_length_lt (hl ▸ ha)]
    exact .nil
termination_by a.length
decreasing_by
  subst_vars
  simp only [List.length_append, Vector.length_toList, packetSize]
  omega

/-! ## Streams -/

theorem map_mapIdx_congr {α β γ : Type} {R : α → α → Prop} {l l' : List α}
    (h : List.Forall₂ R l l') (f : Nat → α → β) (g : β → γ)
    (hR : ∀ n x y, R x y → g (f n x) = g (f n y)) :
    (l.mapIdx f).map g = (l'.mapIdx f).map g := by
  induction h generalizing f with
  | nil => rfl
  | cons hxy _ ih =>
    rw [List.mapIdx_cons, List.mapIdx_cons, List.map_cons, List.map_cons, hR 0 _ _ hxy,
      ih _ fun n => hR (n + 1)]

namespace OpcodeTable

theorem decode_congr (ht : t.StandardOnly) (h : p.ChannelEqual q) (index : Option Nat) :
    (t.decode p index).1.masked = (t.decode q index).1.masked
      ∧ (t.decode p index).2 = (t.decode q index).2 := by
  unfold decode
  rw [h.isGraphics_eq, h.opcode_eq]
  split_ifs
  · cases hb : t.get? q.opcode with
    | none => exact ⟨rfl, rfl⟩
    | some build =>
      obtain ⟨source, op, rfl⟩ := ht _ _ hb
      refine ⟨?_, rfl⟩
      simp only [Instruction.masked_ofPayload, h.payload_eq]
  · exact ⟨rfl, rfl⟩

theorem diagnostics_decodeStream_congr (ht : t.StandardOnly) (h : ChannelEqual a b) :
    (t.decodeStream a).2 = (t.decodeStream b).2 := by
  have hm : ((packets a).mapIdx fun n p => t.decode p (some n)).map Prod.snd
      = ((packets b).mapIdx fun n p => t.decode p (some n)).map Prod.snd :=
    map_mapIdx_congr h.forall₂_packets _ _ fun n _ _ hpq => (decode_congr ht hpq (some n)).2
  have htail : tailDiagnostics a = tailDiagnostics b := by
    rw [tailDiagnostics, tailDiagnostics, trailingBytes, trailingBytes, h.length_eq]
  simp only [decodeStream, List.flatMap_def]
  rw [hm, htail]

/-- What does not depend on masked bits agrees, instruction by instruction. -/
theorem map_decodeStream_congr (ht : t.StandardOnly) (h : ChannelEqual a b) {α : Type}
    {f : Instruction → α} (hf : ∀ i j : Instruction, i.masked = j.masked → f i = f j) :
    (t.decodeStream a).1.map f = (t.decodeStream b).1.map f := by
  simp only [decodeStream, List.map_map]
  exact map_mapIdx_congr h.forall₂_packets _ _ fun n _ _ hpq =>
    hf _ _ (decode_congr ht hpq (some n)).1

theorem execute_decodeStream_congr (ht : t.StandardOnly) (h : ChannelEqual a b) (n : Nat)
    (r : Raster) :
    r.execute ((t.decodeStream a).1.take n) = r.execute ((t.decodeStream b).1.take n) := by
  have hm := map_decodeStream_congr ht h (f := Instruction.masked) fun _ _ hij => hij
  calc r.execute ((t.decodeStream a).1.take n)
      = r.execute (((t.decodeStream a).1.map Instruction.masked).take n) := by
        rw [← List.map_take, r.execute_masked]
    _ = r.execute (((t.decodeStream b).1.map Instruction.masked).take n) := by rw [hm]
    _ = r.execute ((t.decodeStream b).1.take n) := by rw [← List.map_take, r.execute_masked]

/-- Strings that agree in what the channel carries are not told apart: they are reported on alike,
their instructions are listed alike, and as many of either drawn on one raster leave one raster and
report the same, without a fault where the raster is well formed. -/
theorem decodeStream_channelEqual (ht : t.StandardOnly) (h : ChannelEqual a b) :
    (t.decodeStream a).2 = (t.decodeStream b).2
      ∧ (t.decodeStream a).1.map Instruction.opcode = (t.decodeStream b).1.map Instruction.opcode
      ∧ (t.decodeStream a).1.map Instruction.text = (t.decodeStream b).1.map Instruction.text
      ∧ ∀ (n : Nat) (r : Raster),
        r.execute ((t.decodeStream a).1.take n) = r.execute ((t.decodeStream b).1.take n)
          ∧ (r.WellFormed → ∃ r' reported,
            r.execute ((t.decodeStream a).1.take n) = .ok (r', reported)) := by
  refine ⟨diagnostics_decodeStream_congr ht h, map_decodeStream_congr ht h fun i j hij => ?_,
    map_decodeStream_congr ht h fun i j hij => ?_, fun n r =>
      ⟨execute_decodeStream_congr ht h n r, fun hr => ?_⟩⟩
  · rw [← i.opcode_masked, hij, j.opcode_masked]
  · rw [← i.text_masked, hij, j.text_masked]
  · obtain ⟨r', reported, hd, -⟩ := execute_wellFormed hr fun i hi =>
      inRange_decodeStream ht a i (List.mem_of_mem_take hi)
    exact ⟨r', reported, hd⟩

/-- A tile, and the same with every upper bit set, other parity and another tail, read to another
instruction. -/
theorem decodeStream_channelEqual_tile :
    let bytes :=
      (Instruction.tile .replace ⟨1, 2, 3, 4, Vector.replicate tileHeight 21⟩).packet.bytes.toList
    let a := bytes ++ [1]
    let b := (bytes.map (· ||| 192)).set 2 7 ++ [2]
    ChannelEqual a b ∧ (standard.decodeStream a).1 ≠ (standard.decodeStream b).1
      ∧ (standard.decodeStream a).2 = (standard.decodeStream b).2
      ∧ (standard.decodeStream a).1.map Instruction.opcode
        = (standard.decodeStream b).1.map Instruction.opcode
      ∧ (standard.decodeStream a).1.map Instruction.text
        = (standard.decodeStream b).1.map Instruction.text
      ∧ ∀ (n : Nat) (r : Raster),
        r.execute ((standard.decodeStream a).1.take n)
            = r.execute ((standard.decodeStream b).1.take n)
          ∧ (r.WellFormed → ∃ r' reported,
            r.execute ((standard.decodeStream a).1.take n) = .ok (r', reported)) := by
  intro bytes a b
  have hbits : ∀ j < packetSize, Carried j →
      (a[0 * packetSize + j]?).map channelBits = (b[0 * packetSize + j]?).map channelBits := by
    decide +kernel
  have hab : ChannelEqual a b := by
    have h1 : a.length / packetSize = 1 := by decide +kernel
    refine ⟨by decide +kernel, fun k j hk hc => ?_⟩
    obtain rfl : k = 0 := Nat.lt_one_iff.1 (h1 ▸ hk)
    refine hbits j ?_ hc
    rcases hc with hc | hc
    · exact Nat.lt_of_lt_of_le hc (by decide)
    · exact Nat.lt_of_lt_of_le hc.2 (by decide)
  exact ⟨hab, by decide +kernel, decodeStream_channelEqual standardOnly_standard hab⟩

end OpcodeTable

end CdGraphics
