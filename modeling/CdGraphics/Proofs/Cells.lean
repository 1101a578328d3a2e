import CdGraphics.Raster.Drawing
import Mathlib.Data.List.Nodup
import Mathlib.Tactic.SplitIfs

/-!
# Drawing cell by cell

Drawing checks first and then paints. A player that reads, checks and writes one cell after the
other comes to the same raster, or to the same fault: `drawTile_eq_cells`, `borderPreset_eq_cells`
and `loadColors_eq_entries` say so for every raster and all fields.
-/

namespace CdGraphics

/-- Cells listed row by row are listed once each. -/
theorem nodup_rows {ys : List Nat} {xs : Nat → List Nat} {u v : Nat → Nat}
    (hu : Function.Injective u) (hv : Function.Injective v) (hys : ys.Nodup)
    (hxs : ∀ i ∈ ys, (xs i).Nodup) :
    (ys.flatMap fun i => (xs i).map fun j => (u j, v i)).Nodup := by
  rw [List.nodup_flatMap]
  refine ⟨fun i hi => (hxs i hi).map fun a b hab => ?_, ?_⟩
  · rw [Prod.mk.injEq] at hab
    exact hu hab.1
  · refine hys.imp fun {i k} hik => ?_
    rintro ⟨x, y⟩ h1 h2
    obtain ⟨j, -, h1⟩ := List.mem_map.1 h1
    obtain ⟨l, -, h2⟩ := List.mem_map.1 h2
    rw [← h2, Prod.mk.injEq] at h1
    exact hik (hv h1.2)

namespace Plane

/-- Repaints cells one after the other, each from its place and its colour. -/
def paintCells (f : Nat → Nat → UInt8 → UInt8) (p : Plane) : List (Nat × Nat) → Plane
  | [] => p
  | (x, y) :: rest => paintCells f (p.set x y (f x y (p.get x y))) rest

/-- Cells that are listed once each are repainted once each. -/
theorem get_paintCells {f : Nat → Nat → UInt8 → UInt8} {x y : Nat} (hx : x < rasterWidth)
    (hy : y < rasterHeight) : ∀ (places : List (Nat × Nat)) (p : Plane), places.Nodup →
      (p.paintCells f places).get x y
        = if (x, y) ∈ places then f x y (p.get x y) else p.get x y
  | [], p, _ => by simp [paintCells]
  | (u, v) :: rest, p, h => by
    rw [List.nodup_cons] at h
    rw [paintCells, get_paintCells hx hy rest _ h.2, get_set hx hy]
    by_cases hc : u = x ∧ v = y
    · obtain ⟨rfl, rfl⟩ := hc
      rw [if_neg h.1, if_pos ⟨rfl, rfl⟩, if_pos List.mem_cons_self]
    · have : (x, y) ∈ (u, v) :: rest ↔ (x, y) ∈ rest := by
        rw [List.mem_cons, Prod.mk.injEq]
        constructor
        · rintro (⟨rfl, rfl⟩ | hr)
          · exact absurd ⟨rfl, rfl⟩ hc
          · exact hr
        · exact .inr
      simp only [if_neg hc, this]

end Plane

namespace Raster

/-- The fault in giving a cell its new colour, if there is one. -/
def cellFault? (f : Nat → Nat → UInt8 → UInt8) (p : Plane) (place : Nat × Nat) : Option Fault :=
  let color := f place.1 place.2 (p.get place.1 place.2)
  if colorFits color then none else some (.colorOutside color)

/-- Reads a cell and writes what it becomes. -/
def paintCell (f : Nat → Nat → UInt8 → UInt8) (r : Raster) (place : Nat × Nat) :
    Except Fault Raster := do
  let old ← r.getPixel place.1 place.2
  r.setPixel place.1 place.2 (f place.1 place.2 old)

variable {f : Nat → Nat → UInt8 → UInt8} {r : Raster}

theorem paintCell_of_fault {x y : Nat} (hx : x < rasterWidth) (hy : y < rasterHeight)
    {fault : Fault} (h : cellFault? f r.plane (x, y) = some fault) :
    r.paintCell f (x, y) = .error fault := by
  unfold cellFault? at h
  simp only at h
  split_ifs at h with hc
  cases h
  simp only [paintCell, getPixel, setPixel, hx, hy, and_self, if_true, bind, Except.bind, hc]
  rfl

theorem paintCell_of_no_fault {x y : Nat} (hx : x < rasterWidth) (hy : y < rasterHeight)
    (h : cellFault? f r.plane (x, y) = none) :
    r.paintCell f (x, y)
      = .ok { r with plane := r.plane.set x y (f x y (r.plane.get x y)) } := by
  unfold cellFault? at h
  simp only at h
  split_ifs at h with hc
  simp only [paintCell, getPixel, setPixel, hx, hy, and_self, if_true, bind, Except.bind, hc]

theorem paintCell_const (c : UInt8) : paintCell (fun _ _ _ => c)
    = fun r place => r.setPixel place.1 place.2 c := by
  funext r place
  unfold paintCell getPixel setPixel
  split_ifs <;> rfl

/-- Looking for a fault meets the same one on planes that agree where it looks. -/
theorem findSome?_cellFault?_congr {p q : Plane} : ∀ places : List (Nat × Nat),
    (∀ place ∈ places, p.get place.1 place.2 = q.get place.1 place.2) →
    places.findSome? (cellFault? f p) = places.findSome? (cellFault? f q)
  | [], _ => rfl
  | place :: rest, h => by
    have hc : cellFault? f p place = cellFault? f q place := by
      simp only [cellFault?, h place List.mem_cons_self]
    rw [List.findSome?_cons, List.findSome?_cons, hc,
      findSome?_cellFault?_congr rest fun other ho => h other (List.mem_cons_of_mem _ ho)]

/-- Painting cells of the picture one by one stops at the first that would get a colour outside the
palette; as each is listed once, that is seen on the plane as it was. -/
theorem foldlM_paintCell : ∀ (places : List (Nat × Nat)) (r : Raster),
    (∀ place ∈ places, place.1 < rasterWidth ∧ place.2 < rasterHeight) → places.Nodup →
    places.foldlM (paintCell f) r = match places.findSome? (cellFault? f r.plane) with
      | some fault => .error fault
      | none => .ok { r with plane := r.plane.paintCells f places }
  | [], r, _, _ => rfl
  | (x, y) :: rest, r, hin, hnd => by
    obtain ⟨hx, hy⟩ := hin _ List.mem_cons_self
    rw [List.nodup_cons] at hnd
    rw [List.foldlM_cons, List.findSome?_cons]
    cases h : cellFault? f r.plane (x, y) with
    | some fault =>
      rw [paintCell_of_fault hx hy h]
      rfl
    | none =>
      -- The painted cell is not among the rest, so they are searched as on the plane before it.
      have hsame : rest.findSome? (cellFault? f (r.plane.set x y (f x y (r.plane.get x y))))
          = rest.findSome? (cellFault? f r.plane) := by
        refine findSome?_cellFault?_congr rest fun place hp => ?_
        obtain ⟨hu, hv⟩ := hin _ (List.mem_cons_of_mem _ hp)
        have hne : ¬ (x = place.1 ∧ y = place.2) := by
          rintro ⟨rfl, rfl⟩
          exact hnd.1 hp
        rw [Plane.get_set hu hv, if_neg hne]
      rw [paintCell_of_no_fault hx hy h]
      refine (foldlM_paintCell rest _ (fun place hp => hin _ (List.mem_cons_of_mem _ hp))
        hnd.2).trans ?_
      simp only [hsame]
      rfl

end Raster

/-! ## Tiles -/

namespace Tile

theorem mem_places {t : Tile} {x y : Nat} :
    (x, y) ∈ t.places ↔ t.region.contains x y = true := by
  rw [region, Region.contains_iff]
  simp only [places, List.mem_flatMap, List.mem_range, List.mem_map, Prod.mk.injEq, Region.tile]
  constructor
  · rintro ⟨i, hi, j, hj, rfl, rfl⟩
    simp only [tileWidth, tileHeight] at *
    omega
  · rintro ⟨⟨h1, h2⟩, h3, h4⟩
    simp only [tileWidth, tileHeight] at *
    exact ⟨y - t.row.toNat * 12, by omega, x - t.column.toNat * 6, by omega, by omega, by omega⟩

theorem nodup_places (t : Tile) : t.places.Nodup :=
  nodup_rows (fun _ _ h => Nat.add_left_cancel h) (fun _ _ h => Nat.add_left_cancel h)
    List.nodup_range fun _ _ => List.nodup_range

theorem inside_of_mem_places {t : Tile} (h : t.onGrid = true) :
    ∀ place ∈ t.places, place.1 < rasterWidth ∧ place.2 < rasterHeight := by
  rintro ⟨x, y⟩ hp
  obtain ⟨hr, hc⟩ := onGrid_iff.1 h
  obtain ⟨⟨-, hx⟩, -, hy⟩ := Region.contains_iff.1 (mem_places.1 hp)
  simp only [region, Region.tile, tileWidth, tileHeight, tileRows, tileColumns, rasterWidth,
    rasterHeight] at *
  omega

end Tile

namespace Raster

/-- A tile on the grid is drawn as if each of its cells was read and written in turn. -/
theorem drawTile_eq_cells (r : Raster) (mode : TileMode) (t : Tile) :
    r.drawTile mode t = if t.onGrid then
        (t.places.foldlM (paintCell (t.paintColor mode)) r).map (·, [])
      else .ok (r, [.outOfBounds t.row t.column]) := by
  unfold drawTile
  split_ifs with hg
  · rw [foldlM_paintCell _ _ (Tile.inside_of_mem_places hg) t.nodup_places]
    have hf : t.fault? mode r.plane
        = t.places.findSome? (cellFault? (t.paintColor mode) r.plane) := rfl
    rw [hf]
    cases t.places.findSome? (cellFault? (t.paintColor mode) r.plane) with
    | some fault => rfl
    | none =>
      have hp : r.plane.paint t.region (t.paintColor mode)
          = r.plane.paintCells (t.paintColor mode) t.places := by
        refine Plane.ext_get fun x y hx hy => ?_
        rw [Plane.get_paint hx hy, Plane.get_paintCells hx hy _ _ t.nodup_places]
        simp only [Tile.mem_places]
      simp only [hp]
      rfl
  · rfl

/-! ## The border -/

/-- The cells of the border, row by row. -/
def borderCells : List (Nat × Nat) :=
  (List.range rasterHeight).flatMap fun y =>
    ((List.range rasterWidth).filter fun x => !Region.display.contains x y).map fun x => (x, y)

theorem mem_borderCells {x y : Nat} : (x, y) ∈ borderCells
    ↔ (x < rasterWidth ∧ y < rasterHeight) ∧ Region.display.contains x y = false := by
  simp only [borderCells, List.mem_flatMap, List.mem_range, List.mem_map, List.mem_filter,
    Prod.mk.injEq, Bool.not_eq_true']
  constructor
  · rintro ⟨v, hv, u, ⟨hu, hd⟩, rfl, rfl⟩
    exact ⟨⟨hu, hv⟩, hd⟩
  · rintro ⟨⟨hx, hy⟩, hd⟩
    exact ⟨y, hy, x, ⟨hx, hd⟩, rfl, rfl⟩

theorem nodup_borderCells : borderCells.Nodup :=
  nodup_rows (u := id) (v := id) Function.injective_id Function.injective_id List.nodup_range
    fun _ _ => List.nodup_range.filter _

theorem findSome?_cellFault?_const (c : UInt8) (p : Plane) : ∀ places : List (Nat × Nat),
    places ≠ [] → places.findSome? (cellFault? (fun _ _ _ => c) p)
      = if colorFits c then none else some (.colorOutside c)
  | [], h => absurd rfl h
  | place :: rest, _ => by
    rw [List.findSome?_cons]
    cases hc : colorFits c with
    | true =>
      have hnone : rest.findSome? (cellFault? (fun _ _ _ => c) p) = none :=
        List.findSome?_eq_none_iff.2 fun other _ => by simp [cellFault?, hc]
      simp [cellFault?, hc, hnone]
    | false => simp [cellFault?, hc]

/-- The border is painted as if each of its cells was written in turn. -/
theorem borderPreset_eq_cells (r : Raster) (c : UInt8) :
    r.borderPreset c = borderCells.foldlM (fun r place => r.setPixel place.1 place.2 c)
      ((r.setBorderColor c).setBackgroundColor c) := by
  have h0 : (0, 0) ∈ borderCells := mem_borderCells.2 ⟨⟨by decide, by decide⟩, by decide⟩
  have hne : borderCells ≠ [] := List.ne_nil_of_mem h0
  rw [← paintCell_const, foldlM_paintCell _ _ (fun place hp => (mem_borderCells.1 hp).1)
    nodup_borderCells, findSome?_cellFault?_const c _ _ hne]
  have hp (p : Plane) :
      p.paintAll Region.border c = p.paintCells (fun _ _ _ => c) borderCells := by
    refine Plane.ext_get fun x y hx hy => ?_
    rw [Plane.get_paintAll hx hy, Region.any_border hx hy,
      Plane.get_paintCells hx hy _ _ nodup_borderCells]
    simp only [mem_borderCells, hx, hy, and_self, true_and, Bool.not_eq_true']
  unfold borderPreset
  cases colorFits c with
  | true => simp only [hp, if_true]
  | false => rfl

/-! ## Palette entries -/

/-- Loads colours into the palette one after the other, from an entry on. -/
def loadEntries (palette : Vector Rgb paletteSize) : Nat → List Nibbles → Vector Rgb paletteSize
  | _, [] => palette
  | base, c :: rest => loadEntries (palette.setIfInBounds base c.expand) (base + 1) rest

theorem getElem_loadEntries {i : Nat} (hi : i < paletteSize) : ∀ (colors : List Nibbles)
    (base : Nat) (palette : Vector Rgb paletteSize), (loadEntries palette base colors)[i]
      = if base ≤ i then (colors[i - base]?.map Nibbles.expand).getD palette[i] else palette[i]
  | [], base, palette => by simp [loadEntries]
  | c :: rest, base, palette => by
    rw [loadEntries, getElem_loadEntries hi rest, Vector.getElem_setIfInBounds]
    rcases Nat.lt_trichotomy base i with h | rfl | h
    · obtain ⟨k, rfl⟩ : ∃ k, i = base + 1 + k := ⟨i - base - 1, by omega⟩
      have h1 : base + 1 + k - (base + 1) = k := by omega
      have h2 : base + 1 + k - base = k + 1 := by omega
      have h3 : ¬ base = base + 1 + k := by omega
      have h4 : base ≤ base + 1 + k := by omega
      simp only [h1, h2, if_neg h3, if_pos h4, Nat.le_add_right, if_true, List.getElem?_cons_succ]
    · have h1 : ¬ base + 1 ≤ base := by omega
      simp [h1]
    · have h1 : ¬ base + 1 ≤ i := by omega
      have h2 : ¬ base = i := by omega
      have h3 : ¬ base ≤ i := by omega
      simp only [if_neg h1, if_neg h2, if_neg h3]

theorem setPaletteEntry_of_fits (r : Raster) {base : Nat} (hb : base < paletteSize) {c : Nibbles}
    (hc : c.fits = true) : r.setPaletteEntry base c
      = .ok { r with palette := r.palette.setIfInBounds base c.expand } := by
  have hset : r.palette.set base c.expand hb = r.palette.setIfInBounds base c.expand := by
    refine Vector.ext fun i hi => ?_
    rw [Vector.getElem_set, Vector.getElem_setIfInBounds]
  rw [setPaletteEntry, if_pos hc, dif_pos hb, hset]

theorem foldlM_setPaletteEntry : ∀ (colors : List Nibbles) (base : Nat) (r : Raster),
    base + colors.length ≤ paletteSize →
    (colors.zipIdx base).foldlM (fun r entry => r.setPaletteEntry entry.2 entry.1) r
      = match colors.find? fun c => !c.fits with
        | some c => .error (.componentsTooWide c.red c.green c.blue)
        | none => .ok { r with palette := loadEntries r.palette base colors }
  | [], _, _, _ => rfl
  | c :: rest, base, r, h => by
    rw [List.length_cons] at h
    rw [List.zipIdx_cons, List.foldlM_cons, List.find?_cons]
    cases hc : c.fits with
    | false => simp [setPaletteEntry, hc, bind, Except.bind]
    | true =>
      rw [setPaletteEntry_of_fits r (by omega) hc]
      exact foldlM_setPaletteEntry rest (base + 1) _ (by omega)

/-- Eight colours are loaded as if each entry was written in turn. -/
theorem loadColors_eq_entries (r : Raster) (half : PaletteHalf) (colors : Vector Nibbles 8) :
    r.loadColors half colors = (colors.toList.zipIdx half.base).foldlM
      (fun r entry => r.setPaletteEntry entry.2 entry.1) r := by
  rw [foldlM_setPaletteEntry _ _ _ (by cases half <;> simp [PaletteHalf.base, paletteSize])]
  unfold loadColors
  cases colors.toList.find? fun c => !c.fits with
  | some c => rfl
  | none =>
    have hp : loadEntries r.palette half.base colors.toList = Vector.ofFn fun i : Fin paletteSize =>
        if half.base ≤ i.val then
          (colors[i.val - half.base]?.map Nibbles.expand).getD r.palette[i]
        else r.palette[i] := by
      refine Vector.ext fun i hi => ?_
      rw [getElem_loadEntries hi, Vector.getElem_ofFn]
      simp
    simp only [hp]

end Raster

end CdGraphics
