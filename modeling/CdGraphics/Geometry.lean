/-!
# The picture's geometry

A picture is 300 by 216 cells, laid out as 18 rows of 50 tiles of 6 by 12. A `Region` is a
rectangle of cells, half open to the right and below. The cells outside `Region.display` are the
four strips of `Region.border` (`any_border`).
-/

namespace CdGraphics

/-- Width of a tile in cells. -/
abbrev tileWidth : Nat := 6

/-- Height of a tile in cells. -/
abbrev tileHeight : Nat := 12

/-- Tiles side by side across the picture. -/
abbrev tileColumns : Nat := 50

/-- Tiles one above the other down the picture. -/
abbrev tileRows : Nat := 18

/-- Cells across the picture. -/
abbrev rasterWidth : Nat := 300

/-- Cells down the picture. -/
abbrev rasterHeight : Nat := 216

/-- Cells of the picture. -/
abbrev cellCount : Nat := 64800

/-- Colours of the palette. -/
abbrev paletteSize : Nat := 16

theorem rasterWidth_eq : rasterWidth = tileWidth * tileColumns := rfl

theorem rasterHeight_eq : rasterHeight = tileHeight * tileRows := rfl

theorem cellCount_eq : cellCount = rasterWidth * rasterHeight := rfl

/-- A rectangle of cells, from its left column and top row up to, but without, its right column
and bottom row. -/
structure Region where
  left : Nat
  top : Nat
  right : Nat
  bottom : Nat
deriving DecidableEq, Repr

namespace Region

/-- The cell in column `x` of row `y` lies in the region. -/
def contains (r : Region) (x y : Nat) : Bool :=
  decide (r.left ≤ x) && decide (x < r.right) && decide (r.top ≤ y) && decide (y < r.bottom)

theorem contains_iff {r : Region} {x y : Nat} :
    r.contains x y = true ↔ (r.left ≤ x ∧ x < r.right) ∧ r.top ≤ y ∧ y < r.bottom := by
  simp [contains, and_assoc]

/-- The whole picture. -/
def raster : Region := ⟨0, 0, rasterWidth, rasterHeight⟩

theorem contains_raster {x y : Nat} (hx : x < rasterWidth) (hy : y < rasterHeight) :
    raster.contains x y = true := contains_iff.2 ⟨⟨Nat.zero_le x, hx⟩, Nat.zero_le y, hy⟩

/-- The part of the picture inside the border, which is one tile wide on every side. -/
def display : Region :=
  ⟨tileWidth, tileHeight, rasterWidth - tileWidth, rasterHeight - tileHeight⟩

/-- The tile at a place of the tile grid. -/
def tile (row column : Nat) : Region :=
  ⟨column * tileWidth, row * tileHeight, (column + 1) * tileWidth, (row + 1) * tileHeight⟩

/-- The strips that make up the border: above, below, left and right of the display. -/
def border : List Region :=
  [⟨0, 0, rasterWidth, display.top⟩, ⟨0, display.bottom, rasterWidth, rasterHeight⟩,
    ⟨0, display.top, display.left, display.bottom⟩,
    ⟨display.right, display.top, rasterWidth, display.bottom⟩]

/-- The border is what the display leaves over. -/
theorem any_border {x y : Nat} (hx : x < rasterWidth) (hy : y < rasterHeight) :
    border.any (·.contains x y) = !display.contains x y := by
  rw [Bool.eq_iff_iff, Bool.not_eq_true', ← Bool.not_eq_true, List.any_eq_true]
  simp only [contains_iff, border, display, List.mem_cons, List.not_mem_nil, or_false,
    exists_eq_or_imp, exists_eq_left]
  unfold rasterWidth rasterHeight tileWidth tileHeight at *
  omega

/-- A tile holds the cells whose coordinates divide to its place. -/
theorem contains_tile_iff {row column x y : Nat} :
    (tile row column).contains x y = true ↔ x / tileWidth = column ∧ y / tileHeight = row := by
  rw [contains_iff]
  simp only [tile, tileWidth, tileHeight]
  omega

end Region

end CdGraphics
