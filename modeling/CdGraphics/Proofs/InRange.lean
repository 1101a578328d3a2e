import CdGraphics.OpcodeTable
import Mathlib.Tactic.SplitIfs

/-!
# What a packet can carry

Masks keep every field of a decoded instruction in its range, whatever the payload bytes
(`inRange_ofPayload`), so a table that holds only the format's own constructors decodes every stream
to instructions that can be drawn (`inRange_decodeStream`). `OpcodeTable.StandardOnly` is that of a
table, and a step that registers one of these constructors keeps it.
-/

namespace CdGraphics

theorem toNat_channelBits (b : UInt8) : (channelBits b).toNat = b.toNat % 64 := by
  rw [channelBits, UInt8.toNat_and]
  exact Nat.and_two_pow_sub_one_eq_mod b.toNat 6

theorem toNat_colorBits (b : UInt8) : (colorBits b).toNat = b.toNat % 16 := by
  rw [colorBits, UInt8.toNat_and]
  exact Nat.and_two_pow_sub_one_eq_mod b.toNat 4

theorem colorBits_lt (b : UInt8) : colorBits b < 16 := by
  rw [UInt8.lt_iff_toNat_lt, toNat_colorBits]
  exact Nat.mod_lt _ (by decide)

theorem channelBits_lt (b : UInt8) : channelBits b < 64 := by
  rw [UInt8.lt_iff_toNat_lt, toNat_channelBits]
  exact Nat.mod_lt _ (by decide)

/-! ## Colours -/

/-- The twelve bits of a colour, the six of its first byte above the six of its second. -/
def pairValue (high low : UInt8) : Nat := high.toNat % 64 * 64 + low.toNat % 64

theorem pairValue_lt (high low : UInt8) : pairValue high low < 4096 := by
  unfold pairValue
  omega

theorem toNat_pairBits (high low : UInt8) :
    ((channelBits high).toUInt16 <<< 6 ||| (channelBits low).toUInt16).toNat
      = pairValue high low := by
  have hh : (channelBits high).toNat < 64 := by rw [toNat_channelBits]; omega
  have hl : (channelBits low).toNat < 2 ^ 6 := by rw [toNat_channelBits]; omega
  rw [UInt16.toNat_or, UInt16.toNat_shiftLeft, UInt8.toNat_toUInt16, UInt8.toNat_toUInt16]
  have hs : (channelBits high).toNat <<< (UInt16.toNat 6 % 16) % 2 ^ 16
      = (channelBits high).toNat <<< 6 := by
    rw [show UInt16.toNat 6 % 16 = 6 from rfl, Nat.mod_eq_of_lt]
    rw [Nat.shiftLeft_eq]
    omega
  rw [hs, ← Nat.shiftLeft_add_eq_or_of_lt hl, Nat.shiftLeft_eq, toNat_channelBits,
    toNat_channelBits, pairValue]

theorem toNat_red_ofPair (high low : UInt8) :
    (Nibbles.ofPair high low).red.toNat = pairValue high low / 256 := by
  have hv := pairValue_lt high low
  simp only [Nibbles.ofPair, UInt16.toNat_toUInt8, UInt16.toNat_shiftRight, toNat_pairBits]
  rw [show UInt16.toNat 8 % 16 = 8 from rfl, Nat.shiftRight_eq_div_pow]
  omega

theorem toNat_blue_ofPair (high low : UInt8) :
    (Nibbles.ofPair high low).blue.toNat = pairValue high low % 16 := by
  simp only [Nibbles.ofPair, UInt16.toNat_toUInt8, UInt16.toNat_and, toNat_pairBits]
  rw [show UInt16.toNat 15 = 2 ^ 4 - 1 from rfl, Nat.and_two_pow_sub_one_eq_mod]
  omega

theorem toNat_green_ofPair (high low : UInt8) :
    (Nibbles.ofPair high low).green.toNat = pairValue high low / 16 % 16 := by
  simp only [Nibbles.ofPair, UInt16.toNat_toUInt8, UInt16.toNat_shiftRight, UInt16.toNat_and,
    toNat_pairBits]
  rw [show UInt16.toNat 4 % 16 = 4 from rfl, Nat.shiftRight_and_distrib,
    show UInt16.toNat 240 >>> 4 = 2 ^ 4 - 1 from rfl, Nat.and_two_pow_sub_one_eq_mod,
    Nat.shiftRight_eq_div_pow]
  omega

theorem ofPair_fits (high low : UInt8) : (Nibbles.ofPair high low).fits = true := by
  have hv := pairValue_lt high low
  rw [Nibbles.fits_iff]
  refine ⟨?_, ?_, ?_⟩ <;> rw [UInt8.lt_iff_toNat_lt]
  · rw [toNat_red_ofPair]
    exact Nat.div_lt_of_lt_mul hv
  · rw [toNat_green_ofPair]
    exact Nat.mod_lt _ (by decide)
  · rw [toNat_blue_ofPair]
    exact Nat.mod_lt _ (by decide)

/-! ## Fields -/

theorem inRange_tile (p : Payload) : (Tile.ofPayload p).InRange where
  clearColor := colorBits_lt _
  setColor := colorBits_lt _
  row := by
    rw [UInt8.lt_iff_toNat_lt, Tile.ofPayload, UInt8.toNat_and,
      show UInt8.toNat 31 = 2 ^ 5 - 1 from rfl, Nat.and_two_pow_sub_one_eq_mod]
    exact Nat.mod_lt _ (by decide)
  column := channelBits_lt _

theorem min_le_last (a b : UInt8) : min a b ≤ b := by
  rw [show min a b = if a ≤ b then a else b from rfl]
  split_ifs with h
  · exact h
  · exact UInt8.le_refl b

theorem inRange_scroll (source : VerticalSource) (p : Payload) :
    (Scroll.ofPayload source p).InRange where
  color := colorBits_lt _
  hOffset := min_le_last _ _
  vOffset := min_le_last _ _

theorem fits_colorsOfPayload (p : Payload) :
    ∀ c ∈ (colorsOfPayload p).toList, c.fits = true := by
  intro c hc
  change c ∈ [_, _, _, _, _, _, _, _] at hc
  simp only [List.mem_cons, List.not_mem_nil, or_false] at hc
  rcases hc with rfl | rfl | rfl | rfl | rfl | rfl | rfl | rfl <;> exact ofPair_fits _ _

/-- Whatever a payload holds, the fields that are read off it are in their ranges. -/
theorem inRange_ofPayload (source : VerticalSource) (op : Opcode) (p : Payload) :
    (Instruction.ofPayload source op p).InRange := by
  cases op with
  | noop => trivial
  | memoryPreset => exact ⟨colorBits_lt _, colorBits_lt _⟩
  | borderPreset | setKeyColor => exact colorBits_lt _
  | tileBlock | tileBlockXor => exact inRange_tile p
  | scrollPreset | scrollCopy => exact inRange_scroll source p
  | loadColorsLow | loadColorsHigh => exact fits_colorsOfPayload p

/-! ## Tables -/

namespace OpcodeTable

/-- The table holds only constructors of the format's instructions, with either field for the
vertical command of a scroll. -/
def StandardOnly (t : OpcodeTable) : Prop :=
  ∀ code build, t.get? code = some build →
    ∃ source op, build = Instruction.ofPayload source op

variable {t : OpcodeTable}

theorem standardOnly_empty : empty.StandardOnly := by
  intro code build h
  rw [get?_empty] at h
  cases h

theorem StandardOnly.set (h : t.StandardOnly) (opcode : UInt8) {entry : Option Constructor}
    (he : ∀ build, entry = some build → ∃ source op, build = Instruction.ofPayload source op) :
    (t.set opcode entry).StandardOnly := by
  intro code build hb
  rw [get?_set] at hb
  split_ifs at hb
  · exact he build hb
  · exact h code build hb

theorem StandardOnly.set_ofPayload (h : t.StandardOnly) (opcode : UInt8) (source : VerticalSource)
    (op : Opcode) : (t.set opcode (some (Instruction.ofPayload source op))).StandardOnly := by
  refine h.set opcode fun build hb => ?_
  cases hb
  exact ⟨source, op, rfl⟩

theorem StandardOnly.foldl_set (source : VerticalSource) : ∀ (ops : List Opcode) {t : OpcodeTable},
    t.StandardOnly → (ops.foldl (fun t op =>
      t.set op.code (some (Instruction.ofPayload source op))) t).StandardOnly
  | [], _, h => h
  | op :: rest, _, h => StandardOnly.foldl_set source rest (h.set_ofPayload op.code source op)

theorem standardOnly_standard : standard.StandardOnly :=
  standardOnly_empty.foldl_set .verticalField Opcode.all

theorem StandardOnly.withVerticalSource (h : t.StandardOnly) (source : VerticalSource) :
    (t.withVerticalSource source).StandardOnly :=
  (h.set_ofPayload _ source .scrollPreset).set_ofPayload _ source .scrollCopy

/-- The step registers nothing but constructors of the standard table, for opcodes of six bits. -/
def Step.IsStandard : Step → Prop
  | .register opcode build =>
    opcode.toNat < opcodeCount ∧ ∃ code, standard.get? code = some build
  | .erase _ | .verticalSource _ => True

theorem StandardOnly.step (h : t.StandardOnly) {s : Step} (hs : s.IsStandard) :
    ∃ t', t.step s = .ok t' ∧ t'.StandardOnly := by
  cases s with
  | register opcode build =>
    obtain ⟨ho, code, hb⟩ := hs
    obtain ⟨source, op, rfl⟩ := standardOnly_standard code build hb
    exact ⟨_, if_pos ho, h.set_ofPayload opcode source op⟩
  | erase opcode => exact ⟨_, rfl, h.set opcode nofun⟩
  | verticalSource source => exact ⟨_, rfl, h.withVerticalSource source⟩

theorem inRange_decode (h : t.StandardOnly) (p : Packet) (index : Option Nat) :
    (t.decode p index).1.InRange := by
  unfold decode
  split_ifs
  · split
    · rename_i build hb
      obtain ⟨source, op, rfl⟩ := h _ _ hb
      exact inRange_ofPayload source op p.payload
    · trivial
  · trivial

theorem inRange_decodeStream (h : t.StandardOnly) (bytes : List UInt8) :
    ∀ i ∈ (t.decodeStream bytes).1, i.InRange := by
  intro i hi
  simp only [decodeStream, List.mem_map] at hi
  obtain ⟨x, hx, rfl⟩ := hi
  obtain ⟨k, hk, rfl⟩ := List.mem_mapIdx.1 hx
  exact inRange_decode h _ _

end OpcodeTable

end CdGraphics
