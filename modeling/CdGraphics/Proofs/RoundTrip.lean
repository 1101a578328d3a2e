import CdGraphics.Proofs.InRange
import CdGraphics.Settings
import Mathlib.Tactic.IntervalCases

/-!
# Packets that hold instructions

Writing an instruction into a packet and decoding it gives the instruction back, where its fields
are ones that a packet can carry (`ofPayload_payload`). With the vertical command of a scroll read
from its own field that is every instruction in range; read from the horizontal field, it is those
whose two commands match. Nothing else is ever decoded (`exists_decode_ofSettings_iff`): these are
the instructions that a stream can hold.
-/

namespace CdGraphics

/-- The vertical move of a scroll is the one that its horizontal command asks for. -/
def Instruction.Matched : Instruction → Prop
  | .scroll _ s => s.vertical = .matching s.horizontal
  | _ => True

/-! ## Bits -/

theorem colorBits_of_lt {b : UInt8} (h : b < 16) : colorBits b = b := by
  rw [← UInt8.toNat_inj, toNat_colorBits]
  exact Nat.mod_eq_of_lt h

theorem channelBits_of_lt {b : UInt8} (h : b < 64) : channelBits b = b := by
  rw [← UInt8.toNat_inj, toNat_channelBits]
  exact Nat.mod_eq_of_lt h

theorem rowBits_of_lt {b : UInt8} (h : b < 32) : b &&& 0x1f = b := by
  rw [← UInt8.toNat_inj, UInt8.toNat_and, show UInt8.toNat 31 = 2 ^ 5 - 1 from rfl,
    Nat.and_two_pow_sub_one_eq_mod]
  exact Nat.mod_eq_of_lt h

theorem min_last_of_le {a b : UInt8} (h : a ≤ b) : min a b = a := if_pos h

/-- Two fields in one byte, the upper one from bit `k` on. -/
theorem toNat_shiftLeft_or {a b : UInt8} {k : Nat} (hk : k < 8) (ha : a.toNat * 2 ^ k < 256)
    (hb : b.toNat < 2 ^ k) : (a <<< UInt8.ofNat k ||| b).toNat = a.toNat * 2 ^ k + b.toNat := by
  have hs : (a <<< UInt8.ofNat k).toNat = a.toNat <<< k := by
    have hk' : (UInt8.ofNat k).toNat % 8 = k := by
      rw [UInt8.toNat_ofNat']
      omega
    rw [UInt8.toNat_shiftLeft, hk', Nat.shiftLeft_eq]
    exact Nat.mod_eq_of_lt ha
  rw [UInt8.toNat_or, hs, ← Nat.shiftLeft_add_eq_or_of_lt hb, Nat.shiftLeft_eq]

namespace Nibbles

variable {c : Nibbles}

/-- The two bytes of a colour are the halves of its twelve bits. -/
theorem toNat_pair (h : c.fits = true) :
    c.pair.1.toNat = (c.red.toNat * 256 + c.green.toNat * 16 + c.blue.toNat) / 64
      ∧ c.pair.2.toNat = (c.red.toNat * 256 + c.green.toNat * 16 + c.blue.toNat) % 64 := by
  obtain ⟨hr, hg, hb⟩ := fits_iff.1 h
  rw [UInt8.lt_iff_toNat_lt] at hr hg hb
  simp only [UInt8.reduceToNat] at hr hg hb
  have hupper : (c.green >>> 2).toNat = c.green.toNat / 4 := by
    simp [UInt8.toNat_shiftRight, Nat.shiftRight_eq_div_pow]
  have hlower : (c.green &&& 3).toNat = c.green.toNat % 4 := by
    rw [UInt8.toNat_and]
    exact Nat.and_two_pow_sub_one_eq_mod c.green.toNat 2
  have h1 := toNat_shiftLeft_or (a := c.red) (b := c.green >>> 2) (k := 2) (by decide)
    (by omega) (by omega)
  have h2 := toNat_shiftLeft_or (a := c.green &&& 3) (b := c.blue) (k := 4) (by decide)
    (by omega) (by omega)
  rw [hupper] at h1
  rw [hlower] at h2
  constructor
  · refine h1.trans ?_
    omega
  · refine h2.trans ?_
    omega

theorem ofPair_pair (h : c.fits = true) : ofPair c.pair.1 c.pair.2 = c := by
  obtain ⟨hr, hg, hb⟩ := fits_iff.1 h
  rw [UInt8.lt_iff_toNat_lt] at hr hg hb
  simp only [UInt8.reduceToNat] at hr hg hb
  have hv : pairValue c.pair.1 c.pair.2
      = c.red.toNat * 256 + c.green.toNat * 16 + c.blue.toNat := by
    rw [pairValue, (toNat_pair h).1, (toNat_pair h).2]
    omega
  have hred : (ofPair c.pair.1 c.pair.2).red = c.red := by
    rw [← UInt8.toNat_inj, toNat_red_ofPair, hv]
    omega
  have hgreen : (ofPair c.pair.1 c.pair.2).green = c.green := by
    rw [← UInt8.toNat_inj, toNat_green_ofPair, hv]
    omega
  have hblue : (ofPair c.pair.1 c.pair.2).blue = c.blue := by
    rw [← UInt8.toNat_inj, toNat_blue_ofPair, hv]
    omega
  calc ofPair c.pair.1 c.pair.2
      = ⟨(ofPair c.pair.1 c.pair.2).red, (ofPair c.pair.1 c.pair.2).green,
          (ofPair c.pair.1 c.pair.2).blue⟩ := rfl
    _ = c := by rw [hred, hgreen, hblue]

end Nibbles

theorem toNat_scrollCommand (field : UInt8) :
    (scrollCommand field).toNat = field.toNat % 64 / 16 := by
  rw [scrollCommand, UInt8.toNat_shiftRight, UInt8.toNat_and, toNat_channelBits,
    show UInt8.toNat 4 % 8 = 4 from rfl, Nat.shiftRight_and_distrib,
    show UInt8.toNat 48 >>> 4 = 2 ^ 2 - 1 from rfl, Nat.and_two_pow_sub_one_eq_mod,
    Nat.shiftRight_eq_div_pow]
  omega

/-- A scroll's field gives back the command and the fine offset that it was made of. -/
theorem scrollField {command offset : UInt8} (hc : command < 4) (ho : offset < 16) :
    scrollCommand (command <<< 4 ||| offset) = command
      ∧ channelBits (command <<< 4 ||| offset) &&& 0x0f = offset
      ∧ (offset < 8 → channelBits (command <<< 4 ||| offset) &&& 0x07 = offset) := by
  rw [UInt8.lt_iff_toNat_lt] at hc ho
  simp only [UInt8.reduceToNat] at hc ho
  have hf : (command <<< 4 ||| offset).toNat = command.toNat * 16 + offset.toNat :=
    toNat_shiftLeft_or (k := 4) (by decide) (by omega) (by omega)
  refine ⟨?_, ?_, fun h8 => ?_⟩
  · rw [← UInt8.toNat_inj, toNat_scrollCommand, hf]
    omega
  · rw [← UInt8.toNat_inj, UInt8.toNat_and, toNat_channelBits, hf,
      show UInt8.toNat 15 = 2 ^ 4 - 1 from rfl, Nat.and_two_pow_sub_one_eq_mod]
    omega
  · rw [UInt8.lt_iff_toNat_lt] at h8
    simp only [UInt8.reduceToNat] at h8
    rw [← UInt8.toNat_inj, UInt8.toNat_and, toNat_channelBits, hf,
      show UInt8.toNat 7 = 2 ^ 3 - 1 from rfl, Nat.and_two_pow_sub_one_eq_mod]
    omega

/-! ## Payloads -/

theorem Tile.getElem_bitmap_ofPayload (p : Payload) {k : Nat} (h : k < tileHeight)
    (hp : 4 + k < payloadSize) : (Tile.ofPayload p).bitmap[k] = p[4 + k] := by
  simp only [tileHeight] at h
  interval_cases k <;> rfl

theorem getElem_colorsOfPayload (p : Payload) {k : Nat} (h : k < 8)
    (hhigh : 2 * k < payloadSize) (hlow : 2 * k + 1 < payloadSize) :
    (colorsOfPayload p)[k] = .ofPair p[2 * k] p[2 * k + 1] := by
  interval_cases k <;> rfl

theorem getElem?_flatMap_pair {α β : Type} (f g : α → β) : ∀ (l : List α) (k : Nat),
    (l.flatMap fun a => [f a, g a])[2 * k]? = (l[k]?).map f
      ∧ (l.flatMap fun a => [f a, g a])[2 * k + 1]? = (l[k]?).map g
  | [], k => by simp
  | a :: rest, 0 => by simp
  | a :: rest, k + 1 => by simpa [Nat.mul_succ] using getElem?_flatMap_pair f g rest k

namespace Instruction

theorem getElem_payload (i : Instruction) {k : Nat} (h : k < payloadSize) :
    i.payload[k] = i.payloadBytes[k]?.getD 0 := by
  simp [payload]

theorem ofPayload_tile {t : Tile} (mode : TileMode) (h : t.InRange) :
    Tile.ofPayload (tile mode t).payload = t := by
  have hbitmap : (Tile.ofPayload (tile mode t).payload).bitmap = t.bitmap := by
    refine Vector.ext fun k hk => ?_
    rw [Tile.getElem_bitmap_ofPayload _ hk (Nat.add_lt_add_left hk 4), getElem_payload,
      payloadBytes, Nat.add_comm 4 k]
    simp [hk]
  calc Tile.ofPayload (tile mode t).payload
      = ⟨colorBits t.clearColor, colorBits t.setColor, t.row &&& 0x1f, channelBits t.column,
          (Tile.ofPayload (tile mode t).payload).bitmap⟩ := by
        simp [Tile.ofPayload, getElem_payload, payloadBytes]
    _ = t := by
      rw [colorBits_of_lt h.clearColor, colorBits_of_lt h.setColor, rowBits_of_lt h.row,
        channelBits_of_lt h.column, hbitmap]

theorem colorsOfPayload_loadColors {half : PaletteHalf} {colors : Vector Nibbles 8}
    (h : ∀ c ∈ colors.toList, c.fits = true) :
    colorsOfPayload (loadColors half colors).payload = colors := by
  refine Vector.ext fun k hk => ?_
  obtain ⟨h1, h2⟩ := getElem?_flatMap_pair (fun c : Nibbles => c.pair.1) (fun c => c.pair.2)
    colors.toList k
  have hc : colors.toList[k]? = some colors[k] := by simp [hk]
  have hfits : colors[k].fits = true := h _ (List.mem_of_getElem? hc)
  have hlow : 2 * k + 1 < payloadSize := by simp only [payloadSize]; omega
  rw [getElem_colorsOfPayload _ hk (Nat.lt_of_succ_lt hlow) hlow, getElem_payload, getElem_payload,
    payloadBytes, h1, h2, hc]
  exact Nibbles.ofPair_pair hfits

theorem ofPayload_scroll {s : Scroll} (mode : ScrollMode) (h : s.InRange) (source : VerticalSource)
    (hv : source = .horizontalField → s.vertical = .matching s.horizontal) :
    Scroll.ofPayload source (scroll mode s).payload = s := by
  have hcmd : s.horizontal.command < 4 := by cases s.horizontal <;> decide
  have vcmd : s.vertical.command < 4 := by cases s.vertical <;> decide
  have ho8 : s.hOffset < 8 := UInt8.lt_of_le_of_lt h.hOffset (by decide)
  obtain ⟨hh, -, ho⟩ := scrollField hcmd (UInt8.lt_trans ho8 (by decide))
  obtain ⟨vv, vo, -⟩ := scrollField vcmd (UInt8.lt_of_le_of_lt h.vOffset (by decide))
  have hvertical : (Scroll.ofPayload source (scroll mode s).payload).vertical = s.vertical := by
    cases source with
    | verticalField =>
      simp [Scroll.ofPayload, getElem_payload, payloadBytes, vv, VerticalMove.ofCommand_command]
    | horizontalField =>
      rw [hv rfl, ← HorizontalMove.ofCommand_command s.horizontal,
        ← VerticalMove.ofCommand_eq_matching]
      simp [Scroll.ofPayload, getElem_payload, payloadBytes, hh]
  calc Scroll.ofPayload source (scroll mode s).payload
      = ⟨colorBits s.color, .ofCommand s.horizontal.command, min s.hOffset 5,
          (Scroll.ofPayload source (scroll mode s).payload).vertical, min s.vOffset 11⟩ := by
        simp [Scroll.ofPayload, getElem_payload, payloadBytes, hh, ho ho8, vo]
    _ = s := by
      rw [colorBits_of_lt h.color, HorizontalMove.ofCommand_command, hvertical,
        min_last_of_le h.hOffset, min_last_of_le h.vOffset]

/-- An instruction is read back from the payload that it is written to. -/
theorem ofPayload_payload {i : Instruction} (h : i.InRange) (source : VerticalSource)
    (hm : source = .horizontalField → i.Matched) : ofPayload source i.opcode i.payload = i := by
  cases i with
  | noop => rfl
  | memoryPreset color repetition =>
    simp [opcode, ofPayload, getElem_payload, payloadBytes, colorBits_of_lt h.1,
      colorBits_of_lt h.2]
  | borderPreset color | setKeyColor color =>
    simp [opcode, ofPayload, getElem_payload, payloadBytes, colorBits_of_lt h]
  | tile mode t => cases mode <;> simp only [opcode, ofPayload, ofPayload_tile _ h]
  | scroll mode s => cases mode <;> simp only [opcode, ofPayload, ofPayload_scroll _ h source hm]
  | loadColors half colors =>
    cases half <;> simp only [opcode, ofPayload, colorsOfPayload_loadColors h]

/-! ## Packets -/

theorem payload_packet (i : Instruction) : i.packet.payload = i.payload := by
  refine Vector.ext fun k hk => ?_
  have hleft : 4 + k < 4 + 16 := Nat.add_lt_add_left hk 4
  rw [Packet.getElem_payload _ hk (Packet.payloadOffset_add_lt hk), packet,
    Vector.getElem_append_left hleft, Vector.getElem_append_right hleft (Nat.le_add_right 4 k)]
  simp

theorem head_packet (i : Instruction) :
    i.packet.bytes[0] = graphicsCommand ∧ i.packet.bytes[1] = i.opcode.code := by
  rw [packet]
  constructor
  · rw [Vector.getElem_append_left (by decide), Vector.getElem_append_left (by decide)]
    rfl
  · rw [Vector.getElem_append_left (by decide), Vector.getElem_append_left (by decide)]
    rfl

theorem isGraphics_packet (i : Instruction) : i.packet.isGraphics = true := by
  rw [Packet.isGraphics, Packet.command, i.head_packet.1]
  rfl

theorem opcode_packet (i : Instruction) : i.packet.opcode = i.opcode.code := by
  rw [Packet.opcode, i.head_packet.2]
  exact channelBits_of_lt (UInt8.lt_iff_toNat_lt.2 i.opcode.code_lt)

theorem matched_ofPayload (op : Opcode) (p : Payload) :
    (ofPayload .horizontalField op p).Matched := by
  cases op with
  | scrollPreset | scrollCopy => exact VerticalMove.ofCommand_eq_matching _
  | _ => trivial

end Instruction

namespace OpcodeTable

theorem get?_ofSettings (s : Settings) (op : Opcode) :
    (ofSettings s).get? op.code = some (Instruction.ofPayload s.verticalSource op) := by
  cases op <;> rfl

theorem get?_foldl_set {code : UInt8} {build : Constructor} (source : VerticalSource) :
    ∀ (ops : List Opcode) {t : OpcodeTable}, (ops.foldl (fun t op =>
      t.set op.code (some (Instruction.ofPayload source op))) t).get? code = some build →
        (∃ op, op.code = code ∧ build = Instruction.ofPayload source op)
          ∨ t.get? code = some build
  | [], _, h => .inr h
  | op :: rest, t, h => by
    rcases get?_foldl_set source rest h with h | h
    · exact .inl h
    · rw [get?_set] at h
      split_ifs at h with hc
      · exact .inl ⟨op, hc.1, (Option.some.inj h).symm⟩
      · exact .inr h

/-- Whatever a table of settings builds is an instruction, read with the field that they name. -/
theorem exists_of_get?_ofSettings {s : Settings} {code : UInt8} {build : Constructor}
    (h : (ofSettings s).get? code = some build) :
    ∃ op, op.code = code ∧ build = Instruction.ofPayload s.verticalSource op := by
  rw [ofSettings, withVerticalSource, get?_set, get?_set] at h
  split_ifs at h with hcopy hpreset
  · exact ⟨.scrollCopy, hcopy.1, (Option.some.inj h).symm⟩
  · exact ⟨.scrollPreset, hpreset.1, (Option.some.inj h).symm⟩
  · rcases get?_foldl_set .verticalField Opcode.all h with ⟨op, rfl, rfl⟩ | h
    · -- Of the other instructions none has a vertical command.
      refine ⟨op, rfl, ?_⟩
      cases op with
      | scrollPreset => exact absurd ⟨rfl, by decide⟩ hpreset
      | scrollCopy => exact absurd ⟨rfl, by decide⟩ hcopy
      | _ => rfl
    · rw [get?_empty] at h
      cases h

theorem decode_packet {s : Settings} {i : Instruction} (h : i.InRange)
    (hm : s.verticalSource = .horizontalField → i.Matched) (index : Option Nat) :
    (ofSettings s).decode i.packet index = (i, []) := by
  rw [decode, if_pos i.isGraphics_packet, i.opcode_packet, get?_ofSettings, i.payload_packet]
  simp only [Instruction.ofPayload_payload h _ hm]

theorem matched_decode {s : Settings} (hs : s.verticalSource = .horizontalField) (p : Packet)
    (index : Option Nat) : ((ofSettings s).decode p index).1.Matched := by
  unfold decode
  split_ifs
  · split
    · rename_i build hb
      obtain ⟨op, -, rfl⟩ := exists_of_get?_ofSettings hb
      rw [hs]
      exact Instruction.matched_ofPayload op p.payload
    · trivial
  · trivial

/-- A table of settings decodes packets to just the instructions in range: the vertical command of
a scroll is any if it is read from its own field, and else the one that matches the horizontal. The
packet that such an instruction is written to gives it back with nothing to report; a colour stands
there as the upper and the lower six of its twelve bits. -/
theorem exists_decode_ofSettings_iff (i : Instruction) (syncOffsetMs : Float) (index : Option Nat) :
    ((∃ p, ((ofSettings ⟨.verticalField, syncOffsetMs⟩).decode p index).1 = i) ↔ i.InRange)
    ∧ (i.InRange →
      (ofSettings ⟨.verticalField, syncOffsetMs⟩).decode i.packet index = (i, []))
    ∧ ((∃ p, ((ofSettings ⟨.horizontalField, syncOffsetMs⟩).decode p index).1 = i)
      ↔ i.InRange ∧ i.Matched)
    ∧ (i.InRange ∧ i.Matched →
      (ofSettings ⟨.horizontalField, syncOffsetMs⟩).decode i.packet index = (i, []))
    ∧ ∀ c : Nibbles, c.fits = true →
      c.pair.1.toNat = (c.red.toNat * 256 + c.green.toNat * 16 + c.blue.toNat) / 64
        ∧ c.pair.2.toNat = (c.red.toNat * 256 + c.green.toNat * 16 + c.blue.toNat) % 64 := by
  have hrange : ∀ source p, ((ofSettings ⟨source, syncOffsetMs⟩).decode p index).1.InRange :=
    fun source p => inRange_decode (standardOnly_standard.withVerticalSource source) p index
  have hvertical (h : i.InRange) :
      (ofSettings ⟨.verticalField, syncOffsetMs⟩).decode i.packet index = (i, []) :=
    decode_packet h (by simp) index
  have hhorizontal (h : i.InRange ∧ i.Matched) :
      (ofSettings ⟨.horizontalField, syncOffsetMs⟩).decode i.packet index = (i, []) :=
    decode_packet h.1 (fun _ => h.2) index
  refine ⟨⟨?_, fun h => ⟨i.packet, by rw [hvertical h]⟩⟩, hvertical,
    ⟨?_, fun h => ⟨i.packet, by rw [hhorizontal h]⟩⟩, hhorizontal, fun c => Nibbles.toNat_pair⟩
  · rintro ⟨p, rfl⟩
    exact hrange _ p
  · rintro ⟨p, rfl⟩
    exact ⟨hrange _ p, matched_decode rfl p index⟩

/-- A scroll to the left and up by the greatest offsets, read back with either field, and one to
the left and down, which no packet holds for players that read the horizontal field only. -/
theorem exists_decode_ofSettings_iff_scroll :
    let matched := Instruction.scroll .copy ⟨15, .left, 5, .up, 11⟩
    let other := Instruction.scroll .copy ⟨15, .left, 5, .down, 11⟩
    (matched.InRange ∧ matched.Matched) ∧ other.InRange
      ∧ (ofSettings ⟨.verticalField, 0.0⟩).decode other.packet none = (other, [])
      ∧ (ofSettings ⟨.horizontalField, 0.0⟩).decode matched.packet none = (matched, [])
      ∧ ¬ ∃ p, ((ofSettings ⟨.horizontalField, 0.0⟩).decode p none).1 = other := by
  intro matched other
  have hm : matched.InRange ∧ matched.Matched := ⟨⟨by decide, by decide, by decide⟩, rfl⟩
  have ho : other.InRange := ⟨by decide, by decide, by decide⟩
  obtain ⟨-, -, -, hmatched, -⟩ := exists_decode_ofSettings_iff matched 0.0 none
  obtain ⟨-, hother, hnone, -⟩ := exists_decode_ofSettings_iff other 0.0 none
  refine ⟨hm, ho, hother ho, hmatched hm, fun h => ?_⟩
  exact VerticalMove.noConfusion (hnone.1 h).2

end OpcodeTable

end CdGraphics
