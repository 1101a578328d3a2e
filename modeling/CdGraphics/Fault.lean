/-!
# Faults

A fault is a broken promise of a caller: a cell outside the picture, a colour outside the palette,
a buffer of the wrong size. Decoded instructions never raise one; values built by hand can.
-/

namespace CdGraphics

/-- What a caller got wrong. -/
inductive Fault where
  | cellOutside (x y : Nat)
  | colorOutside (color : UInt8)
  | componentsTooWide (red green blue : UInt8)
  | indexOutside (size index : Nat)
  | bufferSize (actual expected : Nat)
  | offsetTooLarge
deriving DecidableEq, Repr

def Fault.message : Fault → String
  | .cellOutside x y => s!"pixel ({x}, {y}) out of raster"
  | .colorOutside color => s!"color index {color.toNat} out of palette"
  | .componentsTooWide red green blue =>
    s!"palette components ({red.toNat}, {green.toNat}, {blue.toNat}) exceed 4 bits"
  | .indexOutside size index => s!"index out of bounds: the len is {size} but the index is {index}"
  | .bufferSize actual expected =>
    "assertion `left == right` failed: frame buffer has wrong size"
      ++ s!"\n  left: {actual}\n right: {expected}"
  | .offsetTooLarge => "attempt to subtract with overflow"

/-! ## Computations that may fault -/

theorem bind_eq_ok {ε α β : Type} {first : Except ε α} {next : α → Except ε β} {b : β} :
    (first >>= next) = .ok b ↔ ∃ a, first = .ok a ∧ next a = .ok b := by
  cases first <;> simp [bind, Except.bind]

theorem map_eq_ok {ε α β : Type} {x : Except ε α} {f : α → β} {b : β} :
    x.map f = .ok b ↔ ∃ a, x = .ok a ∧ f a = b := by
  cases x <;> simp [Except.map]

end CdGraphics
