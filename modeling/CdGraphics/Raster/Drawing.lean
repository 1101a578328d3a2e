import CdGraphics.Diagnostic
import CdGraphics.Instruction.Basic
import CdGraphics.Raster.Basic

/-!
# Drawing

What each instruction does to a raster. Drawing checks before it paints, so that a fault leaves
nothing half done: `Tile.fault?` is the first cell, row by row, that a tile would give a colour
outside the palette.
-/

namespace CdGraphics

/-- A cell's colour after a tile's colour has met it. -/
def TileMode.combine : TileMode → (old new : UInt8) → UInt8
  | replace, _, new => new
  | xor, old, new => old ^^^ new

namespace Tile

/-- The colour that drawing a tile gives to a cell of its region. -/
def paintColor (t : Tile) (mode : TileMode) (x y : Nat) (old : UInt8) : UInt8 :=
  mode.combine old (t.colorAt (x % tileWidth) (y % tileHeight))

/-- The places of a tile's cells, row by row. -/
def places (t : Tile) : List (Nat × Nat) :=
  (List.range tileHeight).flatMap fun i => (List.range tileWidth).map fun j =>
    (t.column.toNat * tileWidth + j, t.row.toNat * tileHeight + i)

/-- The first fault in drawing a tile, if there is one. -/
def fault? (t : Tile) (mode : TileMode) (p : Plane) : Option Fault :=
  t.places.findSome? fun (x, y) =>
    let color := t.paintColor mode x y (p.get x y)
    if Raster.colorFits color then none else some (.colorOutside color)

end Tile

namespace Raster

/-- Fills the picture and makes the colour its memory and background colour. -/
def memoryPreset (r : Raster) (color : UInt8) : Except Fault Raster :=
  ((r.setMemoryColor color).setBackgroundColor color).fill color

/-- Paints the border and makes the colour the border and background colour. -/
def borderPreset (r : Raster) (color : UInt8) : Except Fault Raster :=
  if colorFits color then
    let r := (r.setBorderColor color).setBackgroundColor color
    .ok { r with plane := r.plane.paintAll Region.border color }
  else .error (.colorOutside color)

/-- Draws a tile. One that does not lie on the tile grid is reported and not drawn. -/
def drawTile (r : Raster) (mode : TileMode) (t : Tile) :
    Except Fault (Raster × List Diagnostic) :=
  if t.onGrid then
    match t.fault? mode r.plane with
    | some fault => .error fault
    | none => .ok ({ r with plane := r.plane.paint t.region (t.paintColor mode) }, [])
  else .ok (r, [.outOfBounds t.row t.column])

/-- What the cells that a scroll uncovers are filled with. -/
def scrollFill (mode : ScrollMode) (color : UInt8) : Plane.Fill :=
  match mode with
  | .preset => .color color
  | .copy => .wrap

/-- Sets the background colour and the fine offsets, then moves the plane. -/
def scroll (r : Raster) (mode : ScrollMode) (s : Scroll) : Except Fault Raster :=
  ((r.setBackgroundColor s.color).setOffsets s.hOffset s.vOffset).shift s.shift.1 s.shift.2
    (scrollFill mode s.color)

/-- Loads eight palette entries. -/
def loadColors (r : Raster) (half : PaletteHalf) (colors : Vector Nibbles 8) :
    Except Fault Raster :=
  match colors.toList.find? fun c => !c.fits with
  | some c => .error (.componentsTooWide c.red c.green c.blue)
  | none =>
    let entry (i : Fin paletteSize) : Rgb :=
      if half.base ≤ i.val then (colors[i.val - half.base]?.map Nibbles.expand).getD r.palette[i]
      else r.palette[i]
    .ok { r with palette := Vector.ofFn entry }

end Raster

/-- Draws an instruction. -/
def Instruction.apply (i : Instruction) (r : Raster) : Except Fault (Raster × List Diagnostic) :=
  match i with
  | .noop => .ok (r, [])
  | .memoryPreset color _ => (r.memoryPreset color).map (·, [])
  | .borderPreset color => (r.borderPreset color).map (·, [])
  | .tile mode t => r.drawTile mode t
  | .scroll mode s => (r.scroll mode s).map (·, [])
  | .setKeyColor color => .ok (r.setKeyColor color, [])
  | .loadColors half colors => (r.loadColors half colors).map (·, [])

/-- Draws instructions in order, with all that they report. -/
def Raster.execute (r : Raster) : List Instruction → Except Fault (Raster × List Diagnostic)
  | [] => .ok (r, [])
  | i :: rest => do
    let (r, reported) ← i.apply r
    let (r, later) ← r.execute rest
    return (r, reported ++ later)

namespace Raster

theorem execute_append (r : Raster) (a b : List Instruction) :
    r.execute (a ++ b) = do
      let (r, reported) ← r.execute a
      let (r, later) ← r.execute b
      return (r, reported ++ later) := by
  induction a generalizing r with
  | nil =>
    simp only [List.nil_append, execute, bind, Except.bind, pure, Except.pure]
    cases r.execute b <;> rfl
  | cons i rest ih =>
    simp only [List.cons_append, execute, bind, Except.bind, pure, Except.pure]
    cases i.apply r with
    | error fault => rfl
    | ok drawn =>
      simp only [ih, bind, Except.bind, pure, Except.pure]
      cases drawn.1.execute rest with
      | error fault => rfl
      | ok x => cases hx : x.1.execute b <;> simp [hx]

theorem execute_singleton (r : Raster) (i : Instruction) : r.execute [i] = i.apply r := by
  simp only [execute, bind, Except.bind, pure, Except.pure]
  cases i.apply r <;> simp

end Raster

end CdGraphics
