/-!
# Colours

A palette holds colours of eight bits a component; an instruction carries them in four. Four bits
are spread over eight by the factor 17, so that 15 becomes 255.
-/

namespace CdGraphics

/-- A colour of the palette, eight bits a component. -/
structure Rgb where
  red : UInt8
  green : UInt8
  blue : UInt8
deriving DecidableEq, Repr

/-- A colour as an instruction carries it, meant to have four bits a component. -/
structure Nibbles where
  red : UInt8
  green : UInt8
  blue : UInt8
deriving DecidableEq, Repr

/-- Every entry of the palette before a colour is loaded into it. -/
def Rgb.black : Rgb := ⟨0, 0, 0⟩

namespace Nibbles

/-- Every component has four bits. -/
def fits (c : Nibbles) : Bool :=
  decide (c.red < 16) && decide (c.green < 16) && decide (c.blue < 16)

theorem fits_iff {c : Nibbles} : c.fits = true ↔ c.red < 16 ∧ c.green < 16 ∧ c.blue < 16 := by
  simp [fits, and_assoc]

/-- Four bits spread over eight. -/
def expand (c : Nibbles) : Rgb := ⟨c.red * 17, c.green * 17, c.blue * 17⟩

end Nibbles

/-- Every component is a multiple of 17, as in a colour spread from four bits. -/
def Rgb.IsSpread (c : Rgb) : Prop :=
  17 ∣ c.red.toNat ∧ 17 ∣ c.green.toNat ∧ 17 ∣ c.blue.toNat

instance (c : Rgb) : Decidable c.IsSpread := by unfold Rgb.IsSpread; infer_instance

theorem Rgb.isSpread_black : Rgb.black.IsSpread := by decide

theorem Nibbles.isSpread_expand {c : Nibbles} (h : c.fits = true) : c.expand.IsSpread := by
  obtain ⟨hr, hg, hb⟩ := fits_iff.1 h
  rw [UInt8.lt_iff_toNat_lt] at hr hg hb
  simp only [UInt8.reduceToNat] at hr hg hb
  refine ⟨⟨c.red.toNat, ?_⟩, ⟨c.green.toNat, ?_⟩, ⟨c.blue.toNat, ?_⟩⟩ <;>
    · simp only [expand, UInt8.toNat_mul, UInt8.reduceToNat]
      omega

end CdGraphics
