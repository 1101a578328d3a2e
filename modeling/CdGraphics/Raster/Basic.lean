import CdGraphics.Color
import CdGraphics.Fault
import CdGraphics.Raster.Plane

/-!
# The raster

What instructions draw on: the palette, the pixel plane, the fine scroll offsets and four colours
that the picture refers to. The operations that a caller can misuse check first and raise a
`Fault`; a raster is `WellFormed` when none of its parts has left its range.
-/

namespace CdGraphics

/-- The state that instructions change. -/
structure Raster where
  palette : Vector Rgb paletteSize
  plane : Plane
  hOffset : UInt8
  vOffset : UInt8
  keyColor : Option UInt8
  backgroundColor : Option UInt8
  borderColor : Option UInt8
  memoryColor : Option UInt8
deriving DecidableEq

namespace Raster

/-- A black palette, every cell of colour 0 and no colour referred to. -/
def blank : Raster where
  palette := Vector.replicate paletteSize .black
  plane := .fill 0
  hOffset := 0
  vOffset := 0
  keyColor := none
  backgroundColor := none
  borderColor := none
  memoryColor := none

instance : Inhabited Raster := ⟨blank⟩

/-- Clears the raster but for its palette. -/
def reset (r : Raster) : Raster := { blank with palette := r.palette }

/-- The colour index is one of the palette's. -/
def colorFits (color : UInt8) : Bool := decide (color.toNat < paletteSize)

def setPixel (r : Raster) (x y : Nat) (color : UInt8) : Except Fault Raster :=
  if x < rasterWidth ∧ y < rasterHeight then
    if colorFits color then .ok { r with plane := r.plane.set x y color }
    else .error (.colorOutside color)
  else .error (.cellOutside x y)

def getPixel (r : Raster) (x y : Nat) : Except Fault UInt8 :=
  if x < rasterWidth ∧ y < rasterHeight then .ok (r.plane.get x y) else .error (.cellOutside x y)

def fill (r : Raster) (color : UInt8) : Except Fault Raster :=
  if colorFits color then .ok { r with plane := .fill color } else .error (.colorOutside color)

def setPaletteEntry (r : Raster) (index : Nat) (color : Nibbles) : Except Fault Raster :=
  if color.fits then
    if h : index < paletteSize then .ok { r with palette := r.palette.set index color.expand }
    else .error (.indexOutside paletteSize index)
  else .error (.componentsTooWide color.red color.green color.blue)

/-- Moves the plane to the right by `dx` and down by `dy`. -/
def shift (r : Raster) (dx dy : Int) (fill : Plane.Fill) : Except Fault Raster :=
  match fill with
  | .wrap => .ok { r with plane := r.plane.shift dx dy .wrap }
  | .color color =>
    if colorFits color then .ok { r with plane := r.plane.shift dx dy (.color color) }
    else .error (.colorOutside color)

def setOffsets (r : Raster) (h v : UInt8) : Raster := { r with hOffset := h, vOffset := v }

def setKeyColor (r : Raster) (color : UInt8) : Raster := { r with keyColor := some color }

def setBackgroundColor (r : Raster) (color : UInt8) : Raster :=
  { r with backgroundColor := some color }

def setBorderColor (r : Raster) (color : UInt8) : Raster := { r with borderColor := some color }

def setMemoryColor (r : Raster) (color : UInt8) : Raster := { r with memoryColor := some color }

/-- The one colour that stands for the background: the key colour if it is set, else the
background, the memory or the border colour, else 0. -/
def background (r : Raster) : UInt8 :=
  (r.keyColor <|> r.backgroundColor <|> r.memoryColor <|> r.borderColor).getD 0

/-- A colour reference is unset or one of the palette's. -/
def RefFits (ref : Option UInt8) : Prop := ∀ color ∈ ref, color.toNat < paletteSize

/-- Every part is in its range: colour indices below 16, offsets within a tile, and palette
components spread from four bits. -/
structure WellFormed (r : Raster) : Prop where
  pixels : ∀ x y, x < rasterWidth → y < rasterHeight → (r.plane.get x y).toNat < paletteSize
  hOffset : r.hOffset.toNat < tileWidth
  vOffset : r.vOffset.toNat < tileHeight
  keyColor : RefFits r.keyColor
  backgroundColor : RefFits r.backgroundColor
  borderColor : RefFits r.borderColor
  memoryColor : RefFits r.memoryColor
  palette : ∀ (i : Nat) (h : i < paletteSize), r.palette[i].IsSpread

theorem wellFormed_blank : WellFormed blank where
  pixels x y hx hy := by simp [blank, hx, hy]
  hOffset := by decide
  vOffset := by decide
  keyColor := by simp [blank, RefFits]
  backgroundColor := by simp [blank, RefFits]
  borderColor := by simp [blank, RefFits]
  memoryColor := by simp [blank, RefFits]
  palette i h := by simpa [blank] using Rgb.isSpread_black

theorem WellFormed.reset {r : Raster} (h : r.WellFormed) : r.reset.WellFormed :=
  { wellFormed_blank with palette := h.palette }

end Raster

end CdGraphics
