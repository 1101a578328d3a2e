import CdGraphics.Playback.PacketRate
import Mathlib.Tactic.SplitIfs

/-!
# Times from zero

A clock's first tick adds the time since 0 to the position 0. That changes nothing: a number less
zero is that number, and zero and a number make that number, but for the sign of a zero, since a
value that is unpacked and packed again is the same (`pack_unpack`). So the packet reached is that
of the tick's own time (`packetsAt_from_zero`).
-/

namespace CdGraphics

open Float.Model UnpackedFloat

namespace FromZero

theorem append_fields (b : BitVec 64) :
    BitVec.extractLsb 63 63 b ++ BitVec.extractLsb 62 52 b ++ BitVec.extractLsb 51 0 b = b := by
  apply BitVec.eq_of_getLsbD_eq
  intro i hi
  simp only [BitVec.getLsbD_append, BitVec.getLsbD_extractLsb]
  by_cases hm : i < 52
  · simp [hm]
  · by_cases he : i < 63
    · have hlow : i - 52 < 11 := by omega
      have hsum : 52 + (i - 52) = i := by omega
      simp [hm, hlow, hsum]
    · obtain rfl : i = 63 := by omega
      simp

variable {b : BitVec Format.binary64.numBits}

/-- A value is made of its sign, exponent and mantissa. -/
theorem packComponents_unpack (b : BitVec Format.binary64.numBits) :
    packComponents .binary64 (.ofBitVec (unpackSign b)) (unpackExponent b) (unpackMantissa b)
      = b := by
  have hsign : ∀ v : BitVec 1, (Sign.ofBitVec v).toBitVec = v := by decide
  unfold packComponents
  rw [hsign]
  exact append_fields b

/-- What a finite value is packed into, where its exponent does not overflow. -/
theorem pack_finite (s : Sign) {m : Nat} {e : Int} (hm : 0 < m) (biased : Nat)
    (he : e = biased - 1075) (hb : biased < 2047) :
    UnpackedFloat.pack .binary64 (.finite s m e hm)
      = if m.log2 = 52 then
          packComponents .binary64 s (BitVec.ofNat 11 biased) (BitVec.ofNat 52 m)
        else packComponents .binary64 s 0 (BitVec.ofNat 52 m) := by
  have hbiased : (e + (1023 : Nat) + (52 : Nat)).toNat = biased := by omega
  show (if 2048 ≤ (e + (1023 : Nat) + (52 : Nat)).toNat + 1 then packedInfinity .binary64 s
    else if m.log2 + 1 = 52 + 1 then
      packComponents .binary64 s (BitVec.ofNat 11 (e + (1023 : Nat) + (52 : Nat)).toNat)
        (BitVec.ofNat 52 m)
    else packComponents .binary64 s 0 (BitVec.ofNat 52 m)) = _
  rw [hbiased, if_neg (by omega)]
  by_cases hlog : m.log2 = 52
  · rw [if_pos hlog, if_pos (by rw [hlog])]
  · rw [if_neg hlog, if_neg (by omega)]

theorem pack_unpack (h : Format.binary64.Valid b) :
    UnpackedFloat.pack .binary64 (UnpackedFloat.unpack .binary64 b) = b := by
  have hb := packComponents_unpack b
  have hm : (unpackMantissa b).toNat < 2 ^ 52 := (unpackMantissa b).isLt
  unfold UnpackedFloat.unpack
  dsimp only
  by_cases hexp : unpackExponent b = -1#11
  · rw [if_pos hexp]
    by_cases hmant : unpackMantissa b = 0#52
    · rw [if_pos hmant]
      rw [hexp, hmant] at hb
      exact hb
    · rw [if_neg hmant]
      exact (h.eq_packedNaN hexp hmant).symm
  rw [if_neg hexp]
  by_cases hzero : unpackExponent b = 0#11
  · rw [if_pos hzero]
    rw [hzero] at hb
    by_cases hmant : unpackMantissa b = 0#52
    · rw [dif_pos hmant]
      rw [hmant] at hb
      exact hb
    · -- A subnormal mantissa has fewer than 53 bits.
      have hpos : (unpackMantissa b).toNat ≠ 0 := fun h0 => hmant (BitVec.eq_of_toNat_eq h0)
      rw [dif_neg hmant, pack_finite _ _ 1 ?_ (by decide), if_neg ?_]
      · rw [BitVec.ofNat_toNat, BitVec.setWidth_eq]
        exact hb
      · have := (Nat.log2_lt hpos).2 hm
        omega
      · rw [hzero]
        rfl
  · have he : (unpackExponent b).toNat < 2 ^ 11 := (unpackExponent b).isLt
    have hne : (unpackExponent b).toNat ≠ 2047 := fun h0 => hexp (BitVec.eq_of_toNat_eq h0)
    have hvalue : (1#1 ++ unpackMantissa b).toNat = 2 ^ 52 + (unpackMantissa b).toNat := by
      rw [BitVec.toNat_append, ← Nat.shiftLeft_add_eq_or_of_lt hm]
      rfl
    rw [if_neg hzero, pack_finite _ _ (unpackExponent b).toNat ?_ (by omega), if_pos ?_]
    · have hmantissa : BitVec.ofNat 52 (2 ^ 52 + (unpackMantissa b).toNat) = unpackMantissa b := by
        apply BitVec.eq_of_toNat_eq
        rw [BitVec.toNat_ofNat, Nat.add_mod_left, Nat.mod_eq_of_lt hm]
      rw [hvalue, hmantissa, BitVec.ofNat_toNat, BitVec.setWidth_eq]
      exact hb
    · rw [hvalue, Nat.log2_eq_iff (by omega)]
      omega
    · rfl

theorem model_pack_unpack (m : Float.Model) : Float.Model.pack m.unpack = m := by
  obtain ⟨⟨bits⟩, hvalid⟩ := m
  have h := pack_unpack hvalid
  exact (Float.Model.mk.injEq _ _ _ _).mpr (congrArg UInt64.ofBitVec h)

theorem unpacked_sub_zero (u : UnpackedFloat) : sub .binary64 u (.zero .positive) = u := by
  cases u with
  | zero s => cases s <;> rfl
  | _ => rfl

theorem unpacked_zero_add (u : UnpackedFloat) :
    add .binary64 (.zero .positive) u = u ∨ u = .zero .negative := by
  cases u with
  | zero s =>
    cases s
    · exact .inr rfl
    · exact .inl rfl
  | _ => exact .inl rfl

theorem sub_zero (x : Float) : x - 0.0 = x := by
  obtain ⟨m⟩ := x
  show Float.ofModel (Float.Model.pack (sub .binary64 m.unpack (.zero .positive))) = _
  rw [unpacked_sub_zero, model_pack_unpack]

theorem zero_add (x : Float) : 0.0 + x = x ∨ x = -0.0 := by
  obtain ⟨m⟩ := x
  rcases unpacked_zero_add m.unpack with h | h
  · left
    show Float.ofModel (Float.Model.pack (add .binary64 (.zero .positive) m.unpack)) = _
    rw [h, model_pack_unpack]
  · right
    rw [← model_pack_unpack m, h]
    rfl

end FromZero

/-- The packet that the time since 0 reaches from 0. -/
theorem PacketRate.packetsAt_from_zero (x : Float) :
    disc.packetsAt (0.0 + (x - 0.0)) = disc.packetsAt x := by
  rw [FromZero.sub_zero]
  rcases FromZero.zero_add x with h | rfl
  · rw [h]
  · decide +kernel

end CdGraphics
