import CdGraphics.Geometry

/-!
# The pixel plane

A plane holds a colour index for each of the 300 by 216 cells, row after row. Every operation is
described by what `get` reads afterwards: `get_ofFn`, `get_set`, `get_fill`, `get_paint` and
`get_shift` say it, and `ext_get` that nothing else is to be known.
-/

namespace CdGraphics

/-- A colour index for each cell of the picture. -/
structure Plane where
  cells : Vector UInt8 cellCount
deriving DecidableEq

namespace Plane

theorem index_lt {x y : Nat} (h : x < rasterWidth ∧ y < rasterHeight) :
    x + y * rasterWidth < cellCount := by
  simp only [rasterWidth, rasterHeight, cellCount] at *
  omega

theorem index_mod {x : Nat} (hx : x < rasterWidth) (y : Nat) :
    (x + y * rasterWidth) % rasterWidth = x := by
  simp only [rasterWidth] at *
  omega

theorem index_div {x : Nat} (hx : x < rasterWidth) (y : Nat) :
    (x + y * rasterWidth) / rasterWidth = y := by
  simp only [rasterWidth] at *
  omega

theorem place_of_index_lt {i : Nat} (hi : i < cellCount) :
    i % rasterWidth < rasterWidth ∧ i / rasterWidth < rasterHeight := by
  simp only [rasterWidth, rasterHeight, cellCount] at *
  omega

/-- The colour of a cell; outside the picture it is 0. -/
def get (p : Plane) (x y : Nat) : UInt8 :=
  if h : x < rasterWidth ∧ y < rasterHeight then
    have := index_lt h
    p.cells[x + y * rasterWidth]
  else 0

/-- Changes the colour of a cell; outside the picture there is none to change. -/
def set (p : Plane) (x y : Nat) (color : UInt8) : Plane :=
  if h : x < rasterWidth ∧ y < rasterHeight then
    have := index_lt h
    ⟨p.cells.set (x + y * rasterWidth) color⟩
  else p

/-- The plane with the colour `f x y` in column `x` of row `y`. -/
def ofFn (f : Nat → Nat → UInt8) : Plane :=
  ⟨Vector.ofFn fun i => f (i.val % rasterWidth) (i.val / rasterWidth)⟩

/-- One colour everywhere. -/
def fill (color : UInt8) : Plane := ⟨Vector.replicate cellCount color⟩

theorem getElem_cells (p : Plane) {i : Nat} (hi : i < cellCount) :
    p.cells[i] = p.get (i % rasterWidth) (i / rasterWidth) := by
  have hk : i % rasterWidth + i / rasterWidth * rasterWidth = i := Nat.mod_add_div' i rasterWidth
  rw [get, dif_pos (place_of_index_lt hi)]
  simp only [hk]

theorem ext_get {p q : Plane}
    (h : ∀ x y, x < rasterWidth → y < rasterHeight → p.get x y = q.get x y) : p = q := by
  have hcells : p.cells = q.cells := Vector.ext fun i hi => by
    obtain ⟨hx, hy⟩ := place_of_index_lt hi
    rw [getElem_cells p hi, getElem_cells q hi, h _ _ hx hy]
  cases p
  cases q
  exact congrArg mk hcells

@[simp]
theorem get_ofFn {f : Nat → Nat → UInt8} {x y : Nat} (hx : x < rasterWidth)
    (hy : y < rasterHeight) : (ofFn f).get x y = f x y := by
  simp [get, ofFn, hx, hy, index_mod hx, index_div hx]

@[simp]
theorem get_fill {color : UInt8} {x y : Nat} (hx : x < rasterWidth) (hy : y < rasterHeight) :
    (fill color).get x y = color := by
  simp [get, fill, hx, hy]

theorem get_set {p : Plane} {x y u v : Nat} {color : UInt8} (hx : x < rasterWidth)
    (hy : y < rasterHeight) :
    (p.set u v color).get x y = if u = x ∧ v = y then color else p.get x y := by
  by_cases h : u < rasterWidth ∧ v < rasterHeight
  · by_cases hc : u + v * rasterWidth = x + y * rasterWidth
    · have : u = x ∧ v = y := by simp only [rasterWidth] at *; omega
      simp [get, set, hx, hy, this]
    · have : ¬ (u = x ∧ v = y) := by rintro ⟨rfl, rfl⟩; exact hc rfl
      simp [get, set, hx, hy, h, this, hc]
  · have : ¬ (u = x ∧ v = y) := by rintro ⟨rfl, rfl⟩; exact h ⟨hx, hy⟩
    simp [set, h, this]

/-! ## Painting -/

/-- Repaints `count` cells of row `y` from column `x` on, each from its place and its colour. -/
def paintRow (f : Nat → Nat → UInt8 → UInt8) (y : Nat) : (count x : Nat) → Plane → Plane
  | 0, _, p => p
  | count + 1, x, p => paintRow f y count (x + 1) (p.set x y (f x y (p.get x y)))

/-- Repaints `count` rows from row `y` on, `width` cells each from column `x` on. -/
def paintRows (f : Nat → Nat → UInt8 → UInt8) (x width : Nat) : (count y : Nat) → Plane → Plane
  | 0, _, p => p
  | count + 1, y, p => paintRows f x width count (y + 1) (paintRow f y width x p)

/-- Repaints the cells of a region, each from its place and its colour. -/
def paint (p : Plane) (r : Region) (f : Nat → Nat → UInt8 → UInt8) : Plane :=
  paintRows f r.left (r.right - r.left) (r.bottom - r.top) r.top p

theorem get_paintRow {f : Nat → Nat → UInt8 → UInt8} {v u w : Nat} (hu : u < rasterWidth)
    (hw : w < rasterHeight) : ∀ (count x : Nat) (p : Plane),
      (paintRow f v count x p).get u w
        = if (x ≤ u ∧ u < x + count) ∧ v = w then f u w (p.get u w) else p.get u w
  | 0, x, p => by
    have : ¬ ((x ≤ u ∧ u < x + 0) ∧ v = w) := by omega
    simp only [paintRow, if_neg this]
  | count + 1, x, p => by
    rw [paintRow, get_paintRow hu hw count (x + 1), get_set hu hw]
    by_cases h : x = u ∧ v = w
    · obtain ⟨rfl, rfl⟩ := h
      have h1 : ¬ ((x + 1 ≤ x ∧ x < x + 1 + count) ∧ v = v) := by omega
      have h2 : (x ≤ x ∧ x < x + (count + 1)) ∧ v = v := by omega
      rw [if_neg h1, if_pos h2, if_pos ⟨rfl, rfl⟩]
    · have h1 : ((x + 1 ≤ u ∧ u < x + 1 + count) ∧ v = w)
          ↔ ((x ≤ u ∧ u < x + (count + 1)) ∧ v = w) := by omega
      simp only [h1, if_neg h]

theorem get_paintRows {f : Nat → Nat → UInt8 → UInt8} {x width u w : Nat} (hu : u < rasterWidth)
    (hw : w < rasterHeight) : ∀ (count y : Nat) (p : Plane),
      (paintRows f x width count y p).get u w
        = if (x ≤ u ∧ u < x + width) ∧ y ≤ w ∧ w < y + count then f u w (p.get u w)
          else p.get u w
  | 0, y, p => by
    have : ¬ ((x ≤ u ∧ u < x + width) ∧ y ≤ w ∧ w < y + 0) := by omega
    simp only [paintRows, if_neg this]
  | count + 1, y, p => by
    rw [paintRows, get_paintRows hu hw count (y + 1), get_paintRow hu hw]
    by_cases h : y = w
    · subst h
      have h1 : ¬ ((x ≤ u ∧ u < x + width) ∧ y + 1 ≤ y ∧ y < y + 1 + count) := by omega
      have h2 : ((x ≤ u ∧ u < x + width) ∧ y ≤ y ∧ y < y + (count + 1))
          ↔ ((x ≤ u ∧ u < x + width) ∧ y = y) := by omega
      simp only [if_neg h1, h2]
    · have h1 : ((x ≤ u ∧ u < x + width) ∧ y + 1 ≤ w ∧ w < y + 1 + count)
          ↔ ((x ≤ u ∧ u < x + width) ∧ y ≤ w ∧ w < y + (count + 1)) := by omega
      have h2 : ¬ ((x ≤ u ∧ u < x + width) ∧ y = w) := by omega
      simp only [h1, if_neg h2]

/-- Painting repaints the region's cells once each and no other. -/
theorem get_paint {p : Plane} {r : Region} {f : Nat → Nat → UInt8 → UInt8} {x y : Nat}
    (hx : x < rasterWidth) (hy : y < rasterHeight) :
    (p.paint r f).get x y = if r.contains x y = true then f x y (p.get x y) else p.get x y := by
  rw [paint, get_paintRows hx hy]
  have : ((r.left ≤ x ∧ x < r.left + (r.right - r.left))
      ∧ r.top ≤ y ∧ y < r.top + (r.bottom - r.top)) ↔ r.contains x y = true := by
    rw [Region.contains_iff]; omega
  simp only [this]

/-- Paints regions one after the other in one colour. -/
def paintAll (p : Plane) (regions : List Region) (color : UInt8) : Plane :=
  regions.foldl (fun q r => q.paint r fun _ _ _ => color) p

theorem get_paintAll {c : UInt8} {x y : Nat} (hx : x < rasterWidth) (hy : y < rasterHeight) :
    ∀ (regions : List Region) (p : Plane), (p.paintAll regions c).get x y
      = if regions.any (·.contains x y) = true then c else p.get x y
  | [], p => by simp [paintAll]
  | r :: rest, p => by
    have ih := get_paintAll (c := c) hx hy rest (p.paint r fun _ _ _ => c)
    rw [paintAll, List.foldl_cons, ← paintAll, ih, get_paint hx hy]
    by_cases h1 : rest.any (·.contains x y) = true
    · simp [h1]
    · by_cases h2 : r.contains x y = true <;> simp [h1, h2]

/-! ## Shifting -/

/-- What fills a cell whose colour would come from outside the picture. -/
inductive Fill where
  | color (color : UInt8)
  | wrap
deriving DecidableEq, Repr

/-- The colour at a place that may lie outside the picture. -/
def sample (p : Plane) (fill : Fill) (x y : Int) : UInt8 :=
  match fill with
  | .wrap => p.get (x % rasterWidth).toNat (y % rasterHeight).toNat
  | .color c =>
    if 0 ≤ x ∧ x < rasterWidth ∧ 0 ≤ y ∧ y < rasterHeight then p.get x.toNat y.toNat else c

/-- Overwrites a spare plane with this one, moved to the right by `dx` and down by `dy`. -/
def shiftInto (p spare : Plane) (dx dy : Int) (fill : Fill) : Plane :=
  spare.paint .raster fun x y _ => p.sample fill (x - dx) (y - dy)

/-- Moves the plane to the right by `dx` and down by `dy`. What the spare plane holds does not
matter (`get_shiftInto`), so it is the plane as it was. -/
def shift (p : Plane) (dx dy : Int) (fill : Fill) : Plane :=
  if dx = 0 ∧ dy = 0 then p else p.shiftInto p dx dy fill

theorem sample_natCast {p : Plane} {fill : Fill} {x y : Nat} (hx : x < rasterWidth)
    (hy : y < rasterHeight) : p.sample fill x y = p.get x y := by
  cases fill with
  | wrap =>
    have h1 : ((x : Int) % rasterWidth).toNat = x := by
      rw [Int.emod_eq_of_lt (by omega) (by omega)]; omega
    have h2 : ((y : Int) % rasterHeight).toNat = y := by
      rw [Int.emod_eq_of_lt (by omega) (by omega)]; omega
    simp only [sample, h1, h2]
  | color c =>
    have : (0 : Int) ≤ x ∧ (x : Int) < rasterWidth ∧ (0 : Int) ≤ y ∧ (y : Int) < rasterHeight := by
      omega
    simp only [sample, if_pos this, Int.toNat_natCast]

/-- Nothing of the spare plane is left. -/
theorem get_shiftInto {p spare : Plane} {dx dy : Int} {fill : Fill} {x y : Nat}
    (hx : x < rasterWidth) (hy : y < rasterHeight) :
    (p.shiftInto spare dx dy fill).get x y = p.sample fill (x - dx) (y - dy) := by
  rw [shiftInto, get_paint hx hy, if_pos (Region.contains_raster hx hy)]

/-- A cell takes the colour that stood `dx` to its left and `dy` above it. -/
theorem get_shift {p : Plane} {dx dy : Int} {fill : Fill} {x y : Nat} (hx : x < rasterWidth)
    (hy : y < rasterHeight) :
    (p.shift dx dy fill).get x y = p.sample fill (x - dx) (y - dy) := by
  unfold shift
  split
  · rename_i h
    rw [h.1, h.2, Int.sub_zero, Int.sub_zero, sample_natCast hx hy]
  · exact get_shiftInto hx hy

end Plane

end CdGraphics
