import CdGraphics.Proofs.Outcome
import Mathlib.Data.List.Perm.Basic

/-!
# Tiles in any order

A tile on the grid puts one colour on each cell of its place and none elsewhere (`Tile.ink?`). Drawn
by exclusive or, tiles add up on each cell whatever their order (`get_drawnAll_xor`), and what is
drawn twice is gone. Tiles of different places meet on no cell, so they change places however they
are drawn (`drawnOn_tile_comm`).
-/

namespace CdGraphics

namespace Tile

variable {t u : Tile} {x y : Nat}

/-- The colour that a tile puts on a cell, if it lies on the grid and covers the cell. -/
def ink? (t : Tile) (x y : Nat) : Option UInt8 :=
  if t.onGrid && t.region.contains x y then
    some (t.colorAt (x - t.column.toNat * tileWidth) (y - t.row.toNat * tileHeight))
  else none

/-- Tiles of different places cover no cell in common. -/
theorem ink?_eq_none_or (h : (t.row, t.column) ≠ (u.row, u.column)) (x y : Nat) :
    t.ink? x y = none ∨ u.ink? x y = none := by
  by_contra hne
  obtain ⟨ht, hu⟩ := not_or.1 hne
  unfold ink? at ht hu
  split_ifs at ht with ht'
  · split_ifs at hu with hu'
    · rw [Bool.and_eq_true, region, Region.contains_tile_iff] at ht' hu'
      obtain ⟨-, htc, htr⟩ := ht'
      obtain ⟨-, huc, hur⟩ := hu'
      refine h (Prod.ext ?_ ?_)
      · exact UInt8.toNat_inj.1 (htr.symm.trans hur)
      · exact UInt8.toNat_inj.1 (htc.symm.trans huc)
    · exact hu rfl
  · exact ht rfl

end Tile

namespace Instruction

open Plane

variable {p : Plane} {x y : Nat}

/-- Drawing a tile combines its colours with those of the cells that it covers. -/
theorem get_drawnOn_tile (mode : TileMode) (t : Tile) (p : Plane) (hx : x < rasterWidth)
    (hy : y < rasterHeight) : ((tile mode t).drawnOn p).get x y
      = (t.ink? x y).elim (p.get x y) (mode.combine (p.get x y)) := by
  rw [drawnOn, Tile.ink?]
  rcases t.onGrid with _ | _
  · rfl
  · rw [if_pos rfl, get_paint hx hy, Bool.true_and]
    split_ifs with hc
    · -- Within the tile, a cell's place is what is left of it after whole tiles.
      obtain ⟨hcolumn, hrow⟩ := Region.contains_tile_iff.1 hc
      have hj : x % tileWidth = x - t.column.toNat * tileWidth := by
        simp only [tileWidth] at *
        omega
      have hi : y % tileHeight = y - t.row.toNat * tileHeight := by
        simp only [tileHeight] at *
        omega
      rw [Tile.paintColor, hj, hi]
      rfl
    · rfl

theorem drawnOn_tile_comm {t u : Tile} (h : (t.row, t.column) ≠ (u.row, u.column))
    (m n : TileMode) (p : Plane) : (tile n u).drawnOn ((tile m t).drawnOn p)
      = (tile m t).drawnOn ((tile n u).drawnOn p) := by
  refine ext_get fun x y hx hy => ?_
  simp only [get_drawnOn_tile _ _ _ hx hy]
  rcases Tile.ink?_eq_none_or h x y with hn | hn
  · rw [hn]
    rfl
  · rw [hn]
    rfl

theorem drawn_tile (mode : TileMode) (t : Tile) (r : Raster) :
    (tile mode t).drawn r = r.repainted ((tile mode t).drawnOn r.plane) := by
  rw [drawn, loadedInto_of_no_load fun _ => rfl]
  rfl

end Instruction

/-! ## Exclusive or -/

/-- Colours that are put on one after the other by exclusive or. -/
def xorAll (color : UInt8) (inks : List UInt8) : UInt8 := inks.foldl (· ^^^ ·) color

theorem xorAll_perm {a b : List UInt8} (h : a.Perm b) (color : UInt8) :
    xorAll color a = xorAll color b := h.foldl_eq color

theorem xorAll_eq (color : UInt8) (inks : List UInt8) :
    xorAll color inks = color ^^^ xorAll 0 inks := by
  have h : inks.foldl (· ^^^ ·) (color ^^^ 0) = color ^^^ inks.foldl (· ^^^ ·) 0 :=
    List.foldl_assoc
  rwa [UInt8.xor_zero] at h

/-- What is put on twice is gone. -/
theorem xorAll_append_perm {a b : List UInt8} (h : a.Perm b) (color : UInt8) :
    xorAll color (a ++ b) = color := by
  calc xorAll color (a ++ b)
      = xorAll (xorAll color a) b := List.foldl_append
    _ = color ^^^ xorAll 0 a ^^^ xorAll 0 b := by rw [xorAll_eq _ b, xorAll_eq color a]
    _ = color := by rw [xorAll_perm h, UInt8.xor_assoc, UInt8.xor_self, UInt8.xor_zero]

theorem Plane.get_drawnAll_xor {x y : Nat} (hx : x < rasterWidth) (hy : y < rasterHeight) :
    ∀ (l : List Tile) (p : Plane), (p.drawnAll (l.map (.tile .xor))).get x y
      = xorAll (p.get x y) (l.filterMap (·.ink? x y))
  | [], _ => rfl
  | t :: rest, p => by
    rw [List.map_cons, drawnAll_cons, get_drawnAll_xor hx hy rest,
      Instruction.get_drawnOn_tile .xor t p hx hy, List.filterMap_cons]
    rcases t.ink? x y with _ | c <;> rfl

theorem Plane.drawnAll_xor_perm {a b : List Tile} (h : a.Perm b) (p : Plane) :
    p.drawnAll (a.map (.tile .xor)) = p.drawnAll (b.map (.tile .xor)) := by
  refine ext_get fun x y hx hy => ?_
  rw [get_drawnAll_xor hx hy, get_drawnAll_xor hx hy, xorAll_perm (h.filterMap _)]

theorem Plane.drawnAll_xor_twice {a b : List Tile} (h : a.Perm b) (p : Plane) :
    p.drawnAll ((a ++ b).map (.tile .xor)) = p := by
  refine ext_get fun x y hx hy => ?_
  rw [get_drawnAll_xor hx hy, List.filterMap_append, xorAll_append_perm (h.filterMap _)]

namespace Raster

open Instruction

variable {r : Raster} {l : List Tile}

theorem drawnAll_tiles (mode : TileMode) : ∀ (l : List Tile) (r : Raster),
    r.drawnAll (l.map (.tile mode)) = r.repainted (r.plane.drawnAll (l.map (.tile mode)))
  | [], _ => rfl
  | t :: rest, r => by
    rw [List.map_cons, drawnAll_cons, drawnAll_tiles mode rest, drawn_tile]
    rfl

theorem WellFormed.execute_tiles (hr : r.WellFormed) (mode : TileMode)
    (hl : ∀ t ∈ l, t.InRange) : r.execute (l.map (.tile mode))
      = .ok (r.repainted (r.plane.drawnAll (l.map (.tile mode))),
        (l.map (.tile mode)).flatMap reported) := by
  rw [hr.execute_eq (List.forall_mem_map.2 hl), drawnAll_tiles]

/-- Tiles drawn by exclusive or leave each cell with the colour that it had and the colours of all
that lie on the grid and cover it, in any order the same raster, and drawn twice, in any two
orders, the raster as it was. Two tiles of different places change places, however each is drawn.
What is told of the tiles changes places with them. -/
theorem execute_xor_tiles (hr : r.WellFormed) (hl : ∀ t ∈ l, t.InRange) :
    ∃ r' told, r.execute (l.map (.tile .xor)) = .ok (r', told)
      ∧ r' = r.repainted r'.plane
      ∧ (∀ x y, x < rasterWidth → y < rasterHeight →
        r'.plane.get x y = (l.filterMap (·.ink? x y)).foldl (· ^^^ ·) (r.plane.get x y))
      ∧ (∀ a : List Tile, a.Perm l → ∃ told', r.execute (a.map (.tile .xor)) = .ok (r', told')
        ∧ told'.Perm told)
      ∧ (∀ a b : List Tile, a.Perm l → b.Perm l → ∃ told',
        r.execute ((a ++ b).map (.tile .xor)) = .ok (r, told') ∧ told'.Perm (told ++ told))
      ∧ ∀ (m n : TileMode) (t u : Tile), t.InRange → u.InRange →
        (t.row, t.column) ≠ (u.row, u.column) → ∃ s told' told'',
          r.execute [.tile m t, .tile n u] = .ok (s, told')
            ∧ r.execute [.tile n u, .tile m t] = .ok (s, told'') ∧ told''.Perm told' := by
  have htold {a : List Tile} (ha : a.Perm l) :
      ((a.map (.tile .xor)).flatMap reported).Perm ((l.map (.tile .xor)).flatMap reported) :=
    (ha.map _).flatMap_right _
  have hmem {a : List Tile} (ha : a.Perm l) : ∀ t ∈ a, t.InRange :=
    fun t ht => hl t (ha.mem_iff.1 ht)
  refine ⟨_, _, hr.execute_tiles .xor hl, rfl, fun x y hx hy => Plane.get_drawnAll_xor hx hy l _,
    ?_, ?_, ?_⟩
  · intro a ha
    refine ⟨_, ?_, htold ha⟩
    rw [hr.execute_tiles .xor (hmem ha), Plane.drawnAll_xor_perm ha]
  · intro a b ha hb
    have hab : ∀ t ∈ a ++ b, t.InRange := List.forall_mem_append.2 ⟨hmem ha, hmem hb⟩
    refine ⟨((a ++ b).map (.tile .xor)).flatMap reported, ?_, ?_⟩
    · rw [hr.execute_tiles .xor hab, Plane.drawnAll_xor_twice (ha.trans hb.symm)]
      rfl
    · rw [List.map_append, List.flatMap_append]
      exact (htold ha).append (htold hb)
  · intro m n t u ht hu h
    have htu : ∀ i ∈ [Instruction.tile m t, .tile n u], i.InRange := by
      simpa using ⟨ht, hu⟩
    have hut : ∀ i ∈ [Instruction.tile n u, .tile m t], i.InRange := by
      simpa using ⟨hu, ht⟩
    refine ⟨_, _, _, hr.execute_eq htu, ?_, (List.Perm.swap _ _ []).flatMap_right reported⟩
    rw [hr.execute_eq hut]
    have hswap : r.drawnAll [.tile n u, .tile m t] = r.drawnAll [.tile m t, .tile n u] := by
      rw [drawnAll_cons, drawnAll_cons, drawnAll_cons, drawnAll_cons]
      simp only [drawn_tile]
      exact congrArg r.repainted (drawnOn_tile_comm h m n r.plane).symm
    rw [hswap]

/-- A tile twice, another over it and one below the grid, which is told of: of the first nothing is
left. -/
theorem execute_xor_tiles_overlapping :
    let t : Tile := ⟨5, 9, 2, 3, Vector.replicate tileHeight 63⟩
    let cover : Tile := ⟨1, 2, 2, 3, Vector.replicate tileHeight 63⟩
    let below : Tile := ⟨1, 2, 18, 3, Vector.replicate tileHeight 63⟩
    let beside : Tile := ⟨1, 2, 2, 4, Vector.replicate tileHeight 63⟩
    let l := [t, cover, below, t]
    (∀ t ∈ l, t.InRange) ∧ beside.InRange ∧ (t.row, t.column) ≠ (beside.row, beside.column)
      ∧ (∃ r' told told', blank.execute (l.map (.tile .xor)) = .ok (r', told)
        ∧ blank.execute ([below, t, t, cover].map (.tile .xor)) = .ok (r', told')
        ∧ r'.plane.get 18 24 = 2)
      ∧ (∃ told, blank.execute ((l ++ [cover, t, t, below]).map (.tile .xor)) = .ok (blank, told))
      ∧ ∃ s told told', blank.execute [.tile .replace t, .tile .xor beside] = .ok (s, told)
        ∧ blank.execute [.tile .xor beside, .tile .replace t] = .ok (s, told') := by
  intro t cover below beside l
  have hl : ∀ t ∈ l, t.InRange := by decide
  have hbeside : beside.InRange := by decide
  have hne : (t.row, t.column) ≠ (beside.row, beside.column) := by decide
  have hlast : [below, t, t, cover].Perm l := by decide
  have hfirst : [cover, t, t, below].Perm l := by decide
  obtain ⟨r', told, he, -, hget, hperm, htwice, hswap⟩ := execute_xor_tiles wellFormed_blank hl
  obtain ⟨told', hlast, -⟩ := hperm _ hlast
  obtain ⟨twice, htwice, -⟩ := htwice l _ (.refl l) hfirst
  obtain ⟨s, one, other, hs, hs', -⟩ :=
    hswap .replace .xor t beside (hl t (by decide)) hbeside hne
  refine ⟨hl, hbeside, hne, ⟨r', told, told', he, hlast, ?_⟩, ⟨twice, htwice⟩,
    s, one, other, hs, hs'⟩
  rw [hget 18 24 (by decide) (by decide), blank, Plane.get_fill (by decide) (by decide)]
  decide

end Raster

end CdGraphics
