import CdGraphics.Proofs.TileScroll
import CdGraphics.Proofs.TileXor

/-!
# Drawing a tile

A tile is six cells wide and twelve high, and drawing it goes through these cells one after the
other. That a tile lies within the picture can be said of its cells or of its place
(`onGrid_iff_cells`). Where it does, each cell of its place takes the colour that one bit of the
bitmap selects, and no other cell changes (`apply_tile_of_fits`).
-/

namespace CdGraphics

namespace Tile

variable {t : Tile}

/-- A tile that lies on the tile grid is one whose cells lie in the picture. -/
theorem onGrid_iff_cells : t.onGrid = true
    ↔ t.column.toNat * tileWidth + tileWidth ≤ rasterWidth
      ∧ t.row.toNat * tileHeight + tileHeight ≤ rasterHeight := by
  rw [onGrid_iff]
  simp only [tileRows, tileColumns, tileWidth, tileHeight, rasterWidth, rasterHeight]
  omega

theorem length_places (t : Tile) : t.places.length = tileWidth * tileHeight := by
  simp [places, Nat.mul_comm]

/-- A tile on the grid whose two colours are the palette's is one that a packet can carry. -/
theorem inRange_of_onGrid (hclear : t.clearColor.toNat < paletteSize)
    (hset : t.setColor.toNat < paletteSize) (hg : t.onGrid = true) : t.InRange := by
  obtain ⟨hrow, hcolumn⟩ := onGrid_iff.1 hg
  exact ⟨hclear, hset, Nat.lt_trans hrow (by decide), Nat.lt_trans hcolumn (by decide)⟩

end Tile

namespace Instruction

variable {r : Raster} {t : Tile}

/-- That a tile lies off the grid means that its cells reach beyond the picture. Where the colours
of the picture and of a tile are the palette's, the tile is drawn if it lies on the grid, whatever
its bitmap: a cell of its place takes the colour that its bit selects, alone or combined with its
own by exclusive or, and all else stays, in the plane and beside it. That is one reading and
writing for each of its 72 cells. Off the grid it is reported and nothing drawn. -/
theorem apply_tile_of_fits (hp : r.plane.Fits) (hclear : t.clearColor.toNat < paletteSize)
    (hset : t.setColor.toNat < paletteSize) (mode : TileMode) :
    (tileRows ≤ t.row.toNat ∨ tileColumns ≤ t.column.toNat
      ↔ rasterWidth < t.column.toNat * tileWidth + tileWidth
        ∨ rasterHeight < t.row.toNat * tileHeight + tileHeight)
    ∧ (tileRows ≤ t.row.toNat ∨ tileColumns ≤ t.column.toNat →
      (tile mode t).apply r = .ok (r, [.outOfBounds t.row t.column]))
    ∧ (t.row.toNat < tileRows → t.column.toNat < tileColumns → ∃ r',
      (tile mode t).apply r = .ok (r', [])
        ∧ (∀ x y, x < rasterWidth → y < rasterHeight →
          let row := t.bitmap.get ⟨y % tileHeight, Nat.mod_lt _ (by decide)⟩
          let color := if row.toNat.testBit (5 - x % tileWidth) then t.setColor else t.clearColor
          r'.plane.get x y = if x / tileWidth = t.column.toNat ∧ y / tileHeight = t.row.toNat then
              match mode with
              | .replace => color
              | .xor => r.plane.get x y ^^^ color
            else r.plane.get x y)
        ∧ r' = r.repainted r'.plane
        ∧ t.places.length = 72 ∧ t.places.Nodup
        ∧ t.places.foldlM (Raster.paintCell (t.paintColor mode)) r = .ok r') := by
  refine ⟨?_, ?_, ?_⟩
  · have hcells := (Tile.onGrid_iff (t := t)).symm.trans Tile.onGrid_iff_cells
    omega
  · intro hoff
    have hg : ¬ t.onGrid = true := by
      rw [Tile.onGrid_iff]
      omega
    rw [apply, Raster.drawTile, if_neg hg]
  · intro hrow hcolumn
    have hg : t.onGrid = true := Tile.onGrid_iff.2 ⟨hrow, hcolumn⟩
    have hi : (tile mode t).InRange := t.inRange_of_onGrid hclear hset hg
    have happly : (tile mode t).apply r
        = .ok (r.repainted ((tile mode t).drawnOn r.plane), []) := by
      rw [apply_eq, (fits_drawnOn hp hi).1, drawn_tile, reported, if_pos hg]
    refine ⟨_, happly, fun x y hx hy => ?_, rfl, t.length_places, t.nodup_places, ?_⟩
    · have hbit : t.colorAt (x % tileWidth) (y % tileHeight)
          = if (t.bitmap.get ⟨y % tileHeight, Nat.mod_lt _ (by decide)⟩).toNat.testBit
              (5 - x % tileWidth) then t.setColor else t.clearColor := by
        rw [Tile.colorAt, Vector.getElem?_eq_getElem (Nat.mod_lt _ (by decide))]
        rfl
      show ((tile mode t).drawnOn r.plane).get x y = _
      rw [drawnOn_tile hg, Plane.get_paint_tile hx hy, Tile.paintColor, hbit]
      cases mode <;> rfl
    · have hcells := r.drawTile_eq_cells mode t
      rw [if_pos hg] at hcells
      obtain ⟨r', hr', hout⟩ := map_eq_ok.1 (hcells.symm.trans happly)
      rw [hr', (Prod.mk.inj hout).1]

/-- The last tile of the grid, whose bits from the left of each row are 100001 with two more bits
above, and one below the grid. -/
theorem apply_tile_of_fits_last :
    let r : Raster := { Raster.blank with plane := .fill 5 }
    let t : Tile := ⟨1, 2, 17, 49, Vector.replicate tileHeight 225⟩
    let below : Tile := { t with row := 18 }
    r.plane.Fits ∧ t.clearColor.toNat < paletteSize ∧ t.setColor.toNat < paletteSize
      ∧ (∃ r', (tile .xor t).apply r = .ok (r', []) ∧ r'.plane.get 294 215 = 7
        ∧ r'.plane.get 295 215 = 4 ∧ r'.plane.get 299 204 = 7 ∧ r'.plane.get 293 215 = 5)
      ∧ (tile .xor below).apply r = .ok (r, [.outOfBounds 18 49]) := by
  intro r t below
  have hget : ∀ x y, x < rasterWidth → y < rasterHeight → r.plane.get x y = 5 :=
    fun x y hx hy => Plane.get_fill hx hy
  have hp : r.plane.Fits := fun x y hx hy => by
    rw [hget x y hx hy]
    decide
  obtain ⟨-, -, hon⟩ := apply_tile_of_fits hp (t := t) (by decide) (by decide) .xor
  obtain ⟨-, hoff, -⟩ := apply_tile_of_fits hp (t := below) (by decide) (by decide) .xor
  obtain ⟨r', happly, hcells, -⟩ := hon (by decide) (by decide)
  have hcell : ∀ x y, x < rasterWidth → y < rasterHeight → r'.plane.get x y
      = if x / 6 = 49 ∧ y / 12 = 17 then
          5 ^^^ if (225 : UInt8).toNat.testBit (5 - x % 6) then 2 else 1 else 5 := by
    intro x y hx hy
    simpa [hget x y hx hy, t, Vector.get] using hcells x y hx hy
  refine ⟨hp, by decide, by decide, ⟨r', happly, ?_, ?_, ?_, ?_⟩, hoff (.inl (by decide))⟩ <;>
    · rw [hcell _ _ (by decide) (by decide)]
      decide

end Instruction

end CdGraphics
