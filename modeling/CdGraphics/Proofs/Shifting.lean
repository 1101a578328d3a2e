import CdGraphics.Proofs.Buffered
import CdGraphics.Proofs.Composing
import Mathlib.Algebra.BigOperators.Group.List.Basic
import Mathlib.Algebra.Ring.Int.Defs
import Mathlib.Data.Fintype.EquivFin
import Mathlib.Data.List.FinRange

/-!
# Shifts

Moves that wrap around the picture add, so that only the sum of them counts, and that modulo the
picture's size (`shiftAll_eq`); they rearrange the cells (`shift_wrap_perm`). Moves that fill what
they uncover with one colour add where none goes back on another (`shift_shift_color`). All of this
holds for integers of any size, and whatever the spare plane holds that a move overwrites
(`Buffered.shift_laws`).
-/

namespace CdGraphics

namespace Plane

variable {p : Plane}

/-! ## Wrapping around -/

theorem shift_zero (p : Plane) (fill : Fill) : p.shift 0 0 fill = p := if_pos ⟨rfl, rfl⟩

theorem shift_wrap_congr {dx dy dx' dy' : Int} (hx : dx % rasterWidth = dx' % rasterWidth)
    (hy : dy % rasterHeight = dy' % rasterHeight) :
    p.shift dx dy .wrap = p.shift dx' dy' .wrap := by
  refine ext_get fun x y hu hv => ?_
  rw [get_shift hu hv, get_shift hu hv, sample, sample, Int.sub_emod, hx, ← Int.sub_emod,
    Int.sub_emod (y : Int), hy, ← Int.sub_emod]

theorem shift_shift_wrap (p : Plane) (dx dy dx' dy' : Int) :
    (p.shift dx dy .wrap).shift dx' dy' .wrap = p.shift (dx + dx') (dy + dy') .wrap := by
  refine ext_get fun x y hu hv => ?_
  rw [get_shift hu hv, get_shift hu hv, sample_shift_wrap, Int.sub_sub, Int.sub_sub,
    Int.add_comm dx', Int.add_comm dy']

/-- Moves one after the other, each wrapped around. -/
def shiftAll (p : Plane) (moves : List (Int × Int)) : Plane :=
  moves.foldl (fun q v => q.shift v.1 v.2 .wrap) p

theorem shiftAll_eq : ∀ (moves : List (Int × Int)) (p : Plane),
    p.shiftAll moves = p.shift (moves.map Prod.fst).sum (moves.map Prod.snd).sum .wrap
  | [], p => (p.shift_zero .wrap).symm
  | v :: rest, p => by
    rw [List.map_cons, List.map_cons, List.sum_cons, List.sum_cons, ← shift_shift_wrap,
      ← shiftAll_eq rest]
    rfl

/-- The cell whose colour a cell takes when the plane is moved. -/
def origin (dx dy : Int) (i : Fin cellCount) : Fin cellCount :=
  ⟨(((i.val % rasterWidth : Nat) - dx) % rasterWidth).toNat
    + (((i.val / rasterWidth : Nat) - dy) % rasterHeight).toNat * rasterWidth,
    index_lt ⟨toNat_emod_lt (by decide) _, toNat_emod_lt (by decide) _⟩⟩

/-- No cell gives its colour to two others. -/
theorem origin_injective (dx dy : Int) : Function.Injective (origin dx dy) := by
  rintro ⟨i, hi⟩ ⟨j, hj⟩ h
  have hval := congrArg Fin.val h
  simp only [origin] at hval
  have hx : ((i % rasterWidth : Nat) - dx) % rasterWidth
      = ((j % rasterWidth : Nat) - dx) % rasterWidth := by
    simp only [rasterWidth] at *
    omega
  have hy : ((i / rasterWidth : Nat) - dy) % rasterHeight
      = ((j / rasterWidth : Nat) - dy) % rasterHeight := by
    simp only [rasterWidth, rasterHeight] at *
    omega
  have hcolumn : i % rasterWidth = j % rasterWidth := by
    simp only [rasterWidth] at hx ⊢
    omega
  have hrow : i / rasterWidth = j / rasterWidth := by
    simp only [rasterWidth, rasterHeight, cellCount] at hi hj hy ⊢
    omega
  refine Fin.ext ?_
  calc i = i % rasterWidth + i / rasterWidth * rasterWidth := (Nat.mod_add_div' i _).symm
    _ = j % rasterWidth + j / rasterWidth * rasterWidth := by rw [hcolumn, hrow]
    _ = j := Nat.mod_add_div' j _

theorem getElem_cells_shift_wrap (p : Plane) (dx dy : Int) (i : Fin cellCount) :
    (p.shift dx dy .wrap).cells[i] = p.cells[origin dx dy i] := by
  obtain ⟨hx, hy⟩ := place_of_index_lt i.isLt
  rw [Fin.getElem_fin, getElem_cells _ i.isLt, get_shift hx hy, sample, get,
    dif_pos ⟨toNat_emod_lt (by decide) _, toNat_emod_lt (by decide) _⟩]
  rfl

/-- Moved around the picture, the cells are the same in another order. -/
theorem shift_wrap_perm (p : Plane) (dx dy : Int) :
    (p.shift dx dy .wrap).cells.toList.Perm p.cells.toList := by
  have hlist (q : Plane) : q.cells.toList = List.ofFn fun i : Fin cellCount => q.cells[i] := by
    rw [← Vector.toList_ofFn]
    exact congrArg Vector.toList Vector.ofFn_getElem.symm
  let σ : Equiv.Perm (Fin cellCount) :=
    Equiv.ofBijective _ (Finite.injective_iff_bijective.1 (origin_injective dx dy))
  rw [hlist, hlist]
  simp only [getElem_cells_shift_wrap]
  exact σ.ofFn_comp_perm fun i => p.cells[i]

theorem count_shift_wrap (p : Plane) (dx dy : Int) (c : UInt8) :
    (p.shift dx dy .wrap).cells.count c = p.cells.count c := by
  rw [← Vector.count_toList, ← Vector.count_toList]
  exact (p.shift_wrap_perm dx dy).count_eq c

/-! ## Filling with a colour -/

theorem shift_shift_color (p : Plane) (c : UInt8) {dx dy dx' dy' : Int}
    (hx : 0 ≤ dx ∧ 0 ≤ dx' ∨ dx ≤ 0 ∧ dx' ≤ 0) (hy : 0 ≤ dy ∧ 0 ≤ dy' ∨ dy ≤ 0 ∧ dy' ≤ 0) :
    (p.shift dx dy (.color c)).shift dx' dy' (.color c)
      = p.shift (dx + dx') (dy + dy') (.color c) := by
  refine ext_get fun x y hu hv => ?_
  rw [get_shift hu hv, get_shift hu hv]
  by_cases h : 0 ≤ x - dx' ∧ x - dx' < rasterWidth ∧ 0 ≤ y - dy' ∧ y - dy' < rasterHeight
  · have hu' : ((x - dx').toNat : Int) = x - dx' := Int.toNat_of_nonneg h.1
    have hv' : ((y - dy').toNat : Int) = y - dy' := Int.toNat_of_nonneg h.2.2.1
    have hw : (x - dx').toNat < rasterWidth := by omega
    have hh : (y - dy').toNat < rasterHeight := by omega
    have hinside : (p.shift dx dy (.color c)).sample (.color c) (x - dx') (y - dy')
        = p.sample (.color c) (x - dx' - dx) (y - dy' - dy) := by
      rw [← hu', ← hv', sample_natCast hw hh, get_shift hw hh]
    rw [hinside, Int.sub_sub, Int.sub_sub, Int.add_comm dx', Int.add_comm dy']
  · -- What comes from outside in the second move would come from outside in the whole move.
    have hsum : ¬ (0 ≤ x - (dx + dx') ∧ x - (dx + dx') < rasterWidth ∧ 0 ≤ y - (dy + dy')
        ∧ y - (dy + dy') < rasterHeight) := by
      simp only [rasterWidth, rasterHeight] at *
      omega
    simp only [sample, if_neg h, if_neg hsum]

end Plane

/-! ## The raster and its spare plane -/

namespace Buffered

variable {b : Buffered}

theorem plane_move (b : Buffered) (dx dy : Int) (fill : Plane.Fill) :
    (b.move dx dy fill).raster.plane = b.raster.plane.shift dx dy fill := by
  rw [raster_move]
  rfl

theorem raster_move_move (b : Buffered) (dx dy dx' dy' : Int) (fill fill' : Plane.Fill) :
    ((b.move dx dy fill).move dx' dy' fill').raster
      = b.raster.repainted ((b.raster.plane.shift dx dy fill).shift dx' dy' fill') := by
  rw [raster_move, plane_move, raster_move]
  rfl

theorem shift_eq_move {fill : Plane.Fill} (hf : ∀ c, fill = .color c → c.toNat < paletteSize)
    (dx dy : Int) : b.shift dx dy fill = .ok (b.move dx dy fill) := by
  cases fill with
  | wrap => rfl
  | color c => exact if_pos (Raster.colorFits_iff.2 (hf c rfl))

theorem foldlM_shift_wrap : ∀ (moves : List (Int × Int)) (b : Buffered), ∃ c,
    moves.foldlM (fun b v => b.shift v.1 v.2 .wrap) b = .ok c
      ∧ c.raster = b.raster.repainted (b.raster.plane.shiftAll moves)
  | [], b => ⟨b, rfl, rfl⟩
  | v :: rest, b => by
    obtain ⟨c, hc, hr⟩ := foldlM_shift_wrap rest (b.move v.1 v.2 .wrap)
    refine ⟨c, hc, ?_⟩
    rw [hr, plane_move, raster_move]
    rfl

/-- Shifts by integers of any size, wrapped around or filled with a colour of the palette, whatever
the spare plane holds: where each cell's colour comes from, and that nothing but the plane changes.
Wrapped around, shifts add in any order, modulo the picture's size, the opposite shift takes one
back, and no colour gets more cells or fewer. Filled with one colour, two shifts add where they do
not go opposite ways. -/
theorem shift_laws (b : Buffered) :
    (∀ dx dy fill, (∀ c, fill = .color c → c.toNat < paletteSize) →
      b.shift dx dy fill = .ok (b.move dx dy fill)
        ∧ b.raster.shift dx dy fill = .ok (b.move dx dy fill).raster
        ∧ (b.move dx dy fill).raster = b.raster.repainted (b.move dx dy fill).raster.plane)
    ∧ (∀ (dx dy : Int) (x y : Nat), x < rasterWidth → y < rasterHeight →
      (b.move dx dy .wrap).raster.plane.get x y
        = b.raster.plane.get ((x - dx) % rasterWidth).toNat ((y - dy) % rasterHeight).toNat)
    ∧ (∀ (dx dy : Int) (c : UInt8) (x y : Nat), x < rasterWidth → y < rasterHeight →
      (b.move dx dy (.color c)).raster.plane.get x y
        = if 0 ≤ x - dx ∧ x - dx < rasterWidth ∧ 0 ≤ y - dy ∧ y - dy < rasterHeight then
            b.raster.plane.get (x - dx).toNat (y - dy).toNat
          else c)
    ∧ (∀ moves others : List (Int × Int), others.Perm moves → ∃ c,
      others.foldlM (fun b v => b.shift v.1 v.2 .wrap) b = .ok c
        ∧ c.raster = (b.move ((moves.map Prod.fst).sum % rasterWidth)
          ((moves.map Prod.snd).sum % rasterHeight) .wrap).raster)
    ∧ (∀ dx dy, ((b.move dx dy .wrap).move (-dx) (-dy) .wrap).raster = b.raster)
    ∧ (∀ dx dy c, (b.move dx dy .wrap).raster.plane.cells.count c = b.raster.plane.cells.count c)
    ∧ ∀ (c : UInt8) (dx dy dx' dy' : Int), (0 ≤ dx ∧ 0 ≤ dx' ∨ dx ≤ 0 ∧ dx' ≤ 0) →
      (0 ≤ dy ∧ 0 ≤ dy' ∨ dy ≤ 0 ∧ dy' ≤ 0) →
      ((b.move dx dy (.color c)).move dx' dy' (.color c)).raster
        = (b.move (dx + dx') (dy + dy') (.color c)).raster := by
  refine ⟨fun dx dy fill hf => ⟨shift_eq_move hf dx dy, ?_, ?_⟩, fun dx dy x y hx hy => ?_,
    fun dx dy c x y hx hy => ?_, fun moves others hperm => ?_, fun dx dy => ?_, fun dx dy c => ?_,
    fun c dx dy dx' dy' hx hy => ?_⟩
  · rw [← map_shift, shift_eq_move hf]
    rfl
  · rw [plane_move, raster_move]
  · rw [plane_move, Plane.get_shift hx hy, Plane.sample]
  · rw [plane_move, Plane.get_shift hx hy, Plane.sample]
  · obtain ⟨c, hc, hr⟩ := foldlM_shift_wrap others b
    refine ⟨c, hc, ?_⟩
    rw [hr, raster_move, Plane.shiftAll_eq, (hperm.map Prod.fst).sum_eq,
      (hperm.map Prod.snd).sum_eq]
    exact congrArg _ (Plane.shift_wrap_congr (Int.emod_emod ..).symm
      (Int.emod_emod ..).symm)
  · rw [raster_move_move, Plane.shift_shift_wrap, Int.add_right_neg, Int.add_right_neg,
      Plane.shift_zero]
    rfl
  · rw [plane_move, Plane.count_shift_wrap]
  · rw [raster_move_move, Plane.shift_shift_color _ c hx hy, raster_move]

/-- The upper left cell, coloured alone, is moved twice around the picture, moved with the colour 2
filling what is uncovered, and moved on from there. -/
theorem shift_laws_corner :
    let b : Buffered := ⟨{ Raster.blank with plane := (Plane.fill 0).set 0 0 5 }, .fill 9⟩
    (2 : UInt8).toNat < paletteSize
      ∧ b.shift (-7) 500 .wrap = .ok (b.move (-7) 500 .wrap)
      ∧ (b.move (-7) 500 .wrap).raster.plane.get 293 68 = 5
      ∧ b.shift 3 4 (.color 2) = .ok (b.move 3 4 (.color 2))
      ∧ (b.move 3 4 (.color 2)).raster.plane.get 3 4 = 5
      ∧ (b.move 3 4 (.color 2)).raster.plane.get 2 4 = 2
      ∧ ((b.move 3 4 (.color 2)).move 0 2 (.color 2)).raster = (b.move 3 6 (.color 2)).raster
      ∧ ∃ c, [(2, -1), (299, 433)].foldlM (fun b v => b.shift v.1 v.2 .wrap) b = .ok c
        ∧ c.raster = (b.move 1 0 .wrap).raster := by
  intro b
  have hget : ∀ x y, x < rasterWidth → y < rasterHeight →
      b.raster.plane.get x y = if 0 = x ∧ 0 = y then 5 else 0 := fun x y hx hy => by
    rw [Plane.get_set hx hy, Plane.get_fill hx hy]
  have hcolor : ∀ c, Plane.Fill.color 2 = .color c → c.toNat < paletteSize := by
    intro c hc
    rw [← Plane.Fill.color.inj hc]
    decide
  obtain ⟨hok, hwrap, hfill, hsum, -, -, hadd⟩ := b.shift_laws
  refine ⟨by decide, (hok _ _ .wrap fun _ h => by cases h).1, ?_, (hok _ _ _ hcolor).1, ?_, ?_,
    hadd 2 3 4 0 2 (by decide) (by decide), ?_⟩
  · rw [hwrap _ _ _ _ (by decide) (by decide)]
    exact hget 0 0 (by decide) (by decide)
  · rw [hfill _ _ _ _ _ (by decide) (by decide), if_pos (by decide)]
    exact hget 0 0 (by decide) (by decide)
  · rw [hfill _ _ _ _ _ (by decide) (by decide), if_neg (by decide)]
  · obtain ⟨c, hc, hr⟩ := hsum [(299, 433), (2, -1)] [(2, -1), (299, 433)] (.swap ..)
    have hx : (([(299, 433), (2, -1)] : List (Int × Int)).map Prod.fst).sum % rasterWidth = 1 := by
      decide
    have hy : (([(299, 433), (2, -1)] : List (Int × Int)).map Prod.snd).sum % rasterHeight = 0 := by
      decide
    rw [hx, hy] at hr
    exact ⟨c, hc, hr⟩

end Buffered

end CdGraphics
