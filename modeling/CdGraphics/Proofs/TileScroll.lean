import CdGraphics.Proofs.Drawn

/-!
# Tiles and scrolls

A scroll moves the picture by whole tiles, and the picture is a whole number of tiles wide and high.
So a tile drawn before a scroll is the same tile drawn after it as many places on: wrapped around
the tile grid by a copying scroll (`shift_paint_tile_wrap`), and by a filling one left out where it
falls off the grid (`shift_paint_tile_color`, `shift_paint_tile_color_off`).
-/

namespace CdGraphics

/-- A repainting that looks at a cell's place within its tile only. -/
def TileWise (f : Nat → Nat → UInt8 → UInt8) : Prop :=
  ∀ {x y u v : Nat} (old : UInt8), x % tileWidth = u % tileWidth →
    y % tileHeight = v % tileHeight → f x y old = f u v old

theorem Tile.tileWise_paintColor (t : Tile) (mode : TileMode) : TileWise (t.paintColor mode) := by
  intro x y u v old hx hy
  rw [Tile.paintColor, Tile.paintColor, hx, hy]

namespace Plane

variable {p : Plane} {f : Nat → Nat → UInt8 → UInt8} {row column : Nat}

theorem get_paint_tile {x y : Nat} (hx : x < rasterWidth) (hy : y < rasterHeight) :
    (p.paint (.tile row column) f).get x y
      = if x / tileWidth = column ∧ y / tileHeight = row then f x y (p.get x y)
        else p.get x y := by
  simp only [get_paint hx hy, Region.contains_tile_iff]

/-- Wrapped around, a tile is seen wherever its cells come around again. -/
theorem sample_paint_tile_wrap (x y : Int) :
    (p.paint (.tile row column) f).sample .wrap x y
      = if x % rasterWidth / tileWidth = column ∧ y % rasterHeight / tileHeight = row then
          f (x % rasterWidth).toNat (y % rasterHeight).toNat (p.sample .wrap x y)
        else p.sample .wrap x y := by
  have hx : (x % rasterWidth).toNat < rasterWidth := toNat_emod_lt (by decide) x
  have hy : (y % rasterHeight).toNat < rasterHeight := toNat_emod_lt (by decide) y
  have hplace : ((x % rasterWidth).toNat / tileWidth = column
      ∧ (y % rasterHeight).toNat / tileHeight = row)
        ↔ x % rasterWidth / tileWidth = column ∧ y % rasterHeight / tileHeight = row := by
    simp only [rasterWidth, rasterHeight, tileWidth, tileHeight]
    omega
  simp only [sample, get_paint_tile hx hy, hplace]

/-- A tile on the grid is not seen outside the picture. -/
theorem sample_paint_tile_color (hrow : row < tileRows) (hcolumn : column < tileColumns)
    (c : UInt8) (x y : Int) :
    (p.paint (.tile row column) f).sample (.color c) x y
      = if x / tileWidth = column ∧ y / tileHeight = row then
          f x.toNat y.toNat (p.sample (.color c) x y)
        else p.sample (.color c) x y := by
  by_cases h : 0 ≤ x ∧ x < rasterWidth ∧ 0 ≤ y ∧ y < rasterHeight
  · have hx : x.toNat < rasterWidth := by omega
    have hy : y.toNat < rasterHeight := by omega
    have hplace : (x.toNat / tileWidth = column ∧ y.toNat / tileHeight = row)
        ↔ x / tileWidth = column ∧ y / tileHeight = row := by
      simp only [tileWidth, tileHeight]
      omega
    simp only [sample, if_pos h, get_paint_tile hx hy, hplace]
  · have hplace : ¬ (x / tileWidth = column ∧ y / tileHeight = row) := by
      simp only [rasterWidth, rasterHeight, tileWidth, tileHeight, tileRows, tileColumns] at *
      omega
    simp only [sample, if_neg h, if_neg hplace]

theorem shift_paint_tile_wrap (hf : TileWise f) (hrow : row < tileRows)
    (hcolumn : column < tileColumns) (a b : Int) :
    (p.paint (.tile row column) f).shift (tileWidth * a) (tileHeight * b) .wrap
      = (p.shift (tileWidth * a) (tileHeight * b) .wrap).paint
          (.tile ((row + b) % tileRows).toNat ((column + a) % tileColumns).toNat) f := by
  refine ext_get fun x y hx hy => ?_
  -- The picture is 50 by 18 tiles: going around it, a cell stays at its place within a tile.
  have hplace : ((x - tileWidth * a) % rasterWidth / tileWidth = column
      ∧ (y - tileHeight * b) % rasterHeight / tileHeight = row)
        ↔ x / tileWidth = ((column + a) % tileColumns).toNat
          ∧ y / tileHeight = ((row + b) % tileRows).toNat := by
    simp only [rasterWidth, rasterHeight, tileWidth, tileHeight, tileRows, tileColumns] at *
    omega
  have hx' : ((x - tileWidth * a) % rasterWidth).toNat % tileWidth = x % tileWidth := by
    simp only [rasterWidth, tileWidth]
    omega
  have hy' : ((y - tileHeight * b) % rasterHeight).toNat % tileHeight = y % tileHeight := by
    simp only [rasterHeight, tileHeight]
    omega
  rw [get_shift hx hy, sample_paint_tile_wrap, get_paint_tile hx hy, get_shift hx hy]
  simp only [hplace, hf _ hx' hy']

theorem shift_paint_tile_color (hf : TileWise f) (hrow : row < tileRows)
    (hcolumn : column < tileColumns) {a b : Int} (hb : 0 ≤ row + b) (ha : 0 ≤ column + a)
    (c : UInt8) :
    (p.paint (.tile row column) f).shift (tileWidth * a) (tileHeight * b) (.color c)
      = (p.shift (tileWidth * a) (tileHeight * b) (.color c)).paint
          (.tile (row + b).toNat (column + a).toNat) f := by
  refine ext_get fun x y hx hy => ?_
  have hplace : ((x - tileWidth * a) / tileWidth = column
      ∧ (y - tileHeight * b) / tileHeight = row)
        ↔ x / tileWidth = (column + a).toNat ∧ y / tileHeight = (row + b).toNat := by
    simp only [tileWidth, tileHeight]
    omega
  rw [get_shift hx hy, sample_paint_tile_color hrow hcolumn, get_paint_tile hx hy,
    get_shift hx hy]
  simp only [hplace]
  split_ifs with h
  · refine hf _ ?_ ?_
    · simp only [tileWidth] at *
      omega
    · simp only [tileHeight] at *
      omega
  · rfl

/-- A tile whose place moves off the grid leaves nothing. -/
theorem shift_paint_tile_color_off (hrow : row < tileRows) (hcolumn : column < tileColumns)
    {a b : Int} (h : ¬ ((0 ≤ row + b ∧ row + b < tileRows)
      ∧ 0 ≤ column + a ∧ column + a < tileColumns)) (c : UInt8) :
    (p.paint (.tile row column) f).shift (tileWidth * a) (tileHeight * b) (.color c)
      = p.shift (tileWidth * a) (tileHeight * b) (.color c) := by
  refine ext_get fun x y hx hy => ?_
  have hplace : ¬ ((x - tileWidth * a) / tileWidth = column
      ∧ (y - tileHeight * b) / tileHeight = row) := by
    simp only [rasterWidth, rasterHeight, tileWidth, tileHeight, tileRows, tileColumns] at *
    omega
  rw [get_shift hx hy, sample_paint_tile_color hrow hcolumn, if_neg hplace, get_shift hx hy]

end Plane

/-! ## Instructions -/

namespace Tile

/-- The row, on the tile grid or beyond it, that a scroll takes a tile to. -/
def rowAfter (t : Tile) (s : Scroll) : Int := t.row.toNat + s.shift.2 / tileHeight

/-- The column, on the tile grid or beyond it, that a scroll takes a tile to. -/
def columnAfter (t : Tile) (s : Scroll) : Int := t.column.toNat + s.shift.1 / tileWidth

/-- A scroll takes the tile to another place of the grid, not off it. -/
def StaysOnGrid (t : Tile) (s : Scroll) : Prop :=
  (0 ≤ t.rowAfter s ∧ t.rowAfter s < tileRows)
    ∧ 0 ≤ t.columnAfter s ∧ t.columnAfter s < tileColumns

instance (t : Tile) (s : Scroll) : Decidable (t.StaysOnGrid s) :=
  inferInstanceAs (Decidable (_ ∧ _))

/-- The same tile at another place of the grid. -/
def moveTo (t : Tile) (row column : Int) : Tile :=
  { t with row := UInt8.ofNat row.toNat, column := UInt8.ofNat column.toNat }

variable {t : Tile} {row column : Int}

theorem toNat_row_moveTo (hr : row < tileRows) : (t.moveTo row column).row.toNat = row.toNat :=
  UInt8.toNat_ofNat_of_lt (by simp only [tileRows, UInt8.size] at *; omega)

theorem toNat_column_moveTo (hc : column < tileColumns) :
    (t.moveTo row column).column.toNat = column.toNat :=
  UInt8.toNat_ofNat_of_lt (by simp only [tileColumns, UInt8.size] at *; omega)

theorem onGrid_moveTo (hr : row < tileRows) (hc : column < tileColumns) :
    (t.moveTo row column).onGrid = true := by
  rw [onGrid_iff, toNat_row_moveTo hr, toNat_column_moveTo hc]
  simp only [tileRows, tileColumns] at *
  omega

theorem InRange.moveTo (ht : t.InRange) (hr : row < tileRows) (hc : column < tileColumns) :
    (t.moveTo row column).InRange := by
  have hg := onGrid_iff.1 (onGrid_moveTo (t := t) hr hc)
  refine ⟨ht.clearColor, ht.setColor, ?_, ?_⟩
  · exact Nat.lt_trans hg.1 (by decide)
  · exact Nat.lt_trans hg.2 (by decide)

end Tile

namespace Instruction

variable {r : Raster} {t t' : Tile} {s : Scroll} {mode : TileMode} {fill : ScrollMode}

/-- A scroll moves by whole tiles. -/
theorem drawnOn_scroll (fill : ScrollMode) (s : Scroll) (p : Plane) :
    (scroll fill s).drawnOn p = p.shift (tileWidth * (s.shift.1 / tileWidth))
      (tileHeight * (s.shift.2 / tileHeight)) (Raster.scrollFill fill s.color) := by
  have hx : (tileWidth * (s.shift.1 / tileWidth) : Int) = s.shift.1 := by
    unfold Scroll.shift
    cases s.horizontal <;> rfl
  have hy : (tileHeight * (s.shift.2 / tileHeight) : Int) = s.shift.2 := by
    unfold Scroll.shift
    cases s.vertical <;> rfl
  rw [hx, hy, drawnOn]

theorem drawnOn_tile (hg : t.onGrid = true) (mode : TileMode) (p : Plane) :
    (tile mode t).drawnOn p
      = p.paint (.tile t.row.toNat t.column.toNat) (t.paintColor mode) :=
  if_pos hg

/-- Moved, a tile is painted as it was, in another place. -/
theorem drawnOn_tile_moveTo {row column : Int} (hr : row < tileRows) (hc : column < tileColumns)
    (mode : TileMode) (p : Plane) : (tile mode (t.moveTo row column)).drawnOn p
      = p.paint (.tile row.toNat column.toNat) (t.paintColor mode) := by
  rw [drawnOn_tile (Tile.onGrid_moveTo hr hc), Tile.toNat_row_moveTo hr,
    Tile.toNat_column_moveTo hc]
  rfl

theorem drawnOn_scroll_copy_tile (hg : t.onGrid = true) (mode : TileMode) (s : Scroll)
    (p : Plane) : (scroll .copy s).drawnOn ((tile mode t).drawnOn p)
      = (tile mode (t.moveTo (t.rowAfter s % tileRows) (t.columnAfter s % tileColumns))).drawnOn
          ((scroll .copy s).drawnOn p) := by
  obtain ⟨hrow, hcolumn⟩ := Tile.onGrid_iff.1 hg
  have hr : t.rowAfter s % tileRows < tileRows := Int.emod_lt_of_pos _ (by decide)
  have hc : t.columnAfter s % tileColumns < tileColumns := Int.emod_lt_of_pos _ (by decide)
  rw [drawnOn_tile hg, drawnOn_tile_moveTo hr hc, drawnOn_scroll, drawnOn_scroll]
  exact Plane.shift_paint_tile_wrap (t.tileWise_paintColor mode) hrow hcolumn _ _

theorem drawnOn_scroll_preset_tile (hg : t.onGrid = true) (hon : t.StaysOnGrid s) (mode : TileMode)
    (p : Plane) : (scroll .preset s).drawnOn ((tile mode t).drawnOn p)
      = (tile mode (t.moveTo (t.rowAfter s) (t.columnAfter s))).drawnOn
          ((scroll .preset s).drawnOn p) := by
  obtain ⟨hrow, hcolumn⟩ := Tile.onGrid_iff.1 hg
  rw [drawnOn_tile hg, drawnOn_tile_moveTo hon.1.2 hon.2.2, drawnOn_scroll, drawnOn_scroll]
  exact Plane.shift_paint_tile_color (t.tileWise_paintColor mode) hrow hcolumn hon.1.1 hon.2.1 _

theorem drawnOn_scroll_preset_tile_off (hg : t.onGrid = true) (hoff : ¬ t.StaysOnGrid s)
    (mode : TileMode) (p : Plane) :
    (scroll .preset s).drawnOn ((tile mode t).drawnOn p) = (scroll .preset s).drawnOn p := by
  obtain ⟨hrow, hcolumn⟩ := Tile.onGrid_iff.1 hg
  rw [drawnOn_tile hg, drawnOn_scroll, drawnOn_scroll]
  exact Plane.shift_paint_tile_color_off hrow hcolumn hoff _

/-- A tile and a scroll meet on the plane alone. -/
theorem drawn_scroll_tile (h : (scroll fill s).drawnOn ((tile mode t).drawnOn r.plane)
    = (tile mode t').drawnOn ((scroll fill s).drawnOn r.plane)) :
    (scroll fill s).drawn ((tile mode t).drawn r)
      = (tile mode t').drawn ((scroll fill s).drawn r) := by
  rw [drawn, drawn, h]
  rfl

theorem drawn_scroll_tile_off (h : (scroll fill s).drawnOn ((tile mode t).drawnOn r.plane)
    = (scroll fill s).drawnOn r.plane) :
    (scroll fill s).drawn ((tile mode t).drawn r) = (scroll fill s).drawn r := by
  rw [drawn, drawn, h, loadedInto_of_no_load fun _ => rfl]
  rfl

end Instruction

namespace Raster

open Instruction

variable {r : Raster} {t : Tile} {s : Scroll}

/-- A tile drawn before a scroll is the same tile drawn after it, as many places on: around the
grid if the scroll copies, and if it fills, not at all where that is off the grid. -/
theorem WellFormed.execute_tile_scroll (h : r.WellFormed) (mode : TileMode) (ht : t.InRange)
    (hg : t.onGrid = true) (hs : s.InRange) :
    (∃ r', r.execute [.tile mode t, .scroll .copy s] = .ok (r', [])
        ∧ r.execute [.scroll .copy s,
          .tile mode (t.moveTo (t.rowAfter s % tileRows) (t.columnAfter s % tileColumns))]
          = .ok (r', []))
      ∧ (t.StaysOnGrid s → ∃ r', r.execute [.tile mode t, .scroll .preset s] = .ok (r', [])
        ∧ r.execute [.scroll .preset s, .tile mode (t.moveTo (t.rowAfter s) (t.columnAfter s))]
          = .ok (r', []))
      ∧ (¬ t.StaysOnGrid s → ∃ r', r.execute [.tile mode t, .scroll .preset s] = .ok (r', [])
        ∧ r.execute [.scroll .preset s] = .ok (r', [])) := by
  have hscroll (fill : ScrollMode) : ∀ i ∈ [Instruction.scroll fill s],
      i.InRange ∧ i.reported = [] := List.forall_mem_singleton.2 ⟨hs, rfl⟩
  have hbefore (fill : ScrollMode) : r.execute [.tile mode t, .scroll fill s]
      = .ok (r.drawnAll [.tile mode t, .scroll fill s], []) :=
    h.execute_quiet (List.forall_mem_cons.2 ⟨⟨ht, if_pos hg⟩, hscroll fill⟩)
  have hafter (fill : ScrollMode) {row column : Int} (hr : row < tileRows)
      (hc : column < tileColumns) : r.execute [.scroll fill s, .tile mode (t.moveTo row column)]
        = .ok (r.drawnAll [.scroll fill s, .tile mode (t.moveTo row column)], []) :=
    h.execute_quiet (List.forall_mem_cons.2 ⟨⟨hs, rfl⟩, List.forall_mem_singleton.2
      ⟨ht.moveTo hr hc, if_pos (Tile.onGrid_moveTo hr hc)⟩⟩)
  refine ⟨⟨_, hbefore .copy, ?_⟩, fun hon => ⟨_, hbefore .preset, ?_⟩,
    fun hoff => ⟨_, hbefore .preset, ?_⟩⟩
  · rw [hafter .copy (Int.emod_lt_of_pos _ (by decide)) (Int.emod_lt_of_pos _ (by decide))]
    simp only [drawnAll_cons, drawn_scroll_tile (drawnOn_scroll_copy_tile hg mode s _)]
  · rw [hafter .preset hon.1.2 hon.2.2]
    simp only [drawnAll_cons, drawn_scroll_tile (drawnOn_scroll_preset_tile hg hon mode _)]
  · rw [h.execute_quiet (hscroll .preset)]
    simp only [drawnAll_cons,
      drawn_scroll_tile_off (drawnOn_scroll_preset_tile_off hg hoff mode _)]

/-- The tile in the upper right corner goes around the grid, or off it, or stays on it. -/
theorem WellFormed.execute_tile_scroll_corner :
    let t : Tile := ⟨3, 5, 0, 49, Vector.replicate tileHeight 42⟩
    let out : Scroll := ⟨7, .right, 2, .up, 4⟩
    let back : Scroll := ⟨7, .left, 2, .down, 4⟩
    (∃ r', blank.execute [.tile .xor t, .scroll .copy out] = .ok (r', [])
        ∧ blank.execute [.scroll .copy out, .tile .xor { t with row := 17, column := 0 }]
          = .ok (r', []))
      ∧ (∃ r', blank.execute [.tile .xor t, .scroll .preset back] = .ok (r', [])
        ∧ blank.execute [.scroll .preset back, .tile .xor { t with row := 1, column := 48 }]
          = .ok (r', []))
      ∧ ∃ r', blank.execute [.tile .xor t, .scroll .preset out] = .ok (r', [])
        ∧ blank.execute [.scroll .preset out] = .ok (r', []) := by
  intro t out back
  have ht : t.InRange := ⟨by decide, by decide, by decide, by decide⟩
  have hout : out.InRange := ⟨by decide, by decide, by decide⟩
  have hback : back.InRange := ⟨by decide, by decide, by decide⟩
  obtain ⟨hcopy, -, hoff⟩ := wellFormed_blank.execute_tile_scroll .xor ht rfl hout
  obtain ⟨-, hon, -⟩ := wellFormed_blank.execute_tile_scroll .xor ht rfl hback
  have haround : t.moveTo (t.rowAfter out % tileRows) (t.columnAfter out % tileColumns)
      = { t with row := 17, column := 0 } := by decide
  have hnext : t.moveTo (t.rowAfter back) (t.columnAfter back)
      = { t with row := 1, column := 48 } := by decide
  rw [haround] at hcopy
  rw [hnext] at hon
  exact ⟨hcopy, hon (by decide), hoff (by decide)⟩

end Raster

end CdGraphics
