import CdGraphics.Proofs.SafeDrawing

/-!
# Fine offsets and scrolls

Composing samples the plane at the fine offsets, wrapped around; a copying scroll moves the plane
itself, wrapped around. Both read the same cell for every cell that is shown
(`shownIndex_eq_sample`, `get_shift`), and moves add (`sample_shift_wrap`). So only the sum of a
move and the fine offsets can be seen (`compose_moved_congr`): a scroll by the offsets makes up for
dropping them.
-/

namespace CdGraphics

namespace Plane

/-- The plane moved to the right and down, what leaves at one edge coming back at the other. -/
def displaced (p : Plane) (dx dy : Int) : Plane :=
  ofFn fun x y => p.get ((x - dx) % rasterWidth).toNat ((y - dy) % rasterHeight).toNat

theorem get_displaced (p : Plane) (dx dy : Int) {x y : Nat} (hx : x < rasterWidth)
    (hy : y < rasterHeight) : (p.displaced dx dy).get x y = p.sample .wrap (x - dx) (y - dy) :=
  get_ofFn hx hy

theorem shift_wrap_eq_displaced (p : Plane) (dx dy : Int) :
    p.shift dx dy .wrap = p.displaced dx dy :=
  ext_get fun x y hx hy => by rw [get_shift hx hy, get_displaced p dx dy hx hy]

/-- Wrapped around, displacements add. -/
theorem sample_shift_wrap (p : Plane) (dx dy x y : Int) :
    (p.shift dx dy .wrap).sample .wrap x y = p.sample .wrap (x - dx) (y - dy) := by
  have hx : (x % rasterWidth).toNat < rasterWidth := toNat_emod_lt (by decide) x
  have hy : (y % rasterHeight).toNat < rasterHeight := toNat_emod_lt (by decide) y
  have hu : (((x % rasterWidth).toNat : Int) - dx) % rasterWidth = (x - dx) % rasterWidth := by
    simp only [rasterWidth]
    omega
  have hv : (((y % rasterHeight).toNat : Int) - dy) % rasterHeight = (y - dy) % rasterHeight := by
    simp only [rasterHeight]
    omega
  calc (p.shift dx dy .wrap).sample .wrap x y
      = (p.shift dx dy .wrap).get (x % rasterWidth).toNat (y % rasterHeight).toNat := rfl
    _ = p.sample .wrap (x - dx) (y - dy) := by
      rw [get_shift hx hy, sample, sample, hu, hv]

end Plane

namespace Raster

variable {r s : Raster}

/-- What is shown of a cell is the colour that stands the fine offsets to its left and above. -/
theorem shownIndex_eq_sample (hv : r.vOffset.toNat ≤ rasterHeight) (x y : Nat) :
    r.shownIndex x y = r.plane.sample .wrap (x - r.hOffset.toNat) (y - r.vOffset.toNat) := by
  have hh : r.hOffset.toNat < 256 := r.hOffset.toNat_lt
  have hu : (((x : Int) - r.hOffset.toNat) % rasterWidth).toNat
      = (x + rasterWidth - r.hOffset.toNat) % rasterWidth := by
    simp only [rasterWidth]
    omega
  have hw : (((y : Int) - r.vOffset.toNat) % rasterHeight).toNat
      = (y + rasterHeight - r.vOffset.toNat) % rasterHeight := by
    simp only [rasterHeight] at *
    omega
  rw [shownIndex, Plane.sample, hu, hw]

theorem writeCells_congr
    (h : ∀ x y, r.shown (r.shownIndex x y) = s.shown (s.shownIndex x y)) :
    ∀ (count k : Nat) (buffer : Array UInt8),
      r.writeCells count k buffer = s.writeCells count k buffer
  | 0, _, _ => rfl
  | count + 1, k, buffer => by rw [writeCells, writeCells, h, writeCells_congr h count]

/-- Rasters of one palette are composed to the same bytes where they show the same cells. -/
theorem compose_congr (hr : r.plane.Fits) (hrv : r.vOffset.toNat ≤ rasterHeight)
    (hs : s.plane.Fits) (hsv : s.vOffset.toNat ≤ rasterHeight) (hp : r.palette = s.palette)
    (hk : r.keyColor = s.keyColor) (h : ∀ x y : Nat,
      r.plane.sample .wrap (x - r.hOffset.toNat) (y - r.vOffset.toNat)
        = s.plane.sample .wrap (x - s.hOffset.toNat) (y - s.vOffset.toNat)) :
    r.compose = s.compose := by
  have hshown : ∀ x y, r.shown (r.shownIndex x y) = s.shown (s.shownIndex x y) := fun x y => by
    rw [shownIndex_eq_sample hrv, shownIndex_eq_sample hsv, h, shown, shown, hp, hk]
  rw [compose_eq hr hrv, compose_eq hs hsv, writeCells_congr hshown]

/-- What is shown depends on the move and the fine offsets by their sum alone. -/
theorem compose_moved_congr (hp : r.plane.Fits) {h v h' v' : UInt8} {dx dy dx' dy' : Int}
    (hv : v.toNat ≤ rasterHeight) (hv' : v'.toNat ≤ rasterHeight)
    (hx : h.toNat + dx = h'.toNat + dx') (hy : v.toNat + dy = v'.toNat + dy') :
    ({ r with plane := r.plane.shift dx dy .wrap }.setOffsets h v).compose
      = ({ r with plane := r.plane.shift dx' dy' .wrap }.setOffsets h' v').compose := by
  refine compose_congr (hp.shift_wrap _ _) hv (hp.shift_wrap _ _) hv' rfl rfl fun x y => ?_
  simp only [setOffsets, Plane.sample_shift_wrap, Int.sub_sub, hx, hy]

/-- Showing a raster at fine offsets is showing it moved by as much, without offsets; and what it
was moved by before adds to the offsets. -/
theorem compose_setOffsets_eq_compose_shift (hp : r.plane.Fits) (h : UInt8) {v : UInt8}
    (hv : v.toNat ≤ rasterHeight) :
    (∃ moved f, r.shift h.toNat v.toNat .wrap = .ok moved ∧ (r.setOffsets h v).compose = .ok f
        ∧ (moved.setOffsets 0 0).compose = .ok f)
      ∧ ∀ dx dy : Int, ∃ moved f, r.shift dx dy .wrap = .ok moved
        ∧ (moved.setOffsets h v).compose = .ok f
        ∧ ({ r with plane := r.plane.displaced (h.toNat + dx) (v.toNat + dy) }.setOffsets 0
            0).compose = .ok f := by
  have hzero : (0 : UInt8).toNat ≤ rasterHeight := Nat.zero_le _
  refine ⟨?_, fun dx dy => ?_⟩
  · obtain ⟨f, hf⟩ : ∃ f, (r.setOffsets h v).compose = .ok f := ⟨_, compose_eq hp hv⟩
    refine ⟨_, f, rfl, hf, ?_⟩
    calc ({ r with plane := r.plane.shift h.toNat v.toNat .wrap }.setOffsets 0 0).compose
        = ({ r with plane := r.plane.shift 0 0 .wrap }.setOffsets h v).compose :=
          compose_moved_congr hp hzero hv (by simp) (by simp)
      _ = .ok f := hf
  · obtain ⟨f, hf⟩ : ∃ f, ({ r with plane := r.plane.shift dx dy .wrap }.setOffsets h v).compose
        = .ok f := ⟨_, compose_eq (hp.shift_wrap dx dy) hv⟩
    refine ⟨_, f, rfl, hf, ?_⟩
    rw [← Plane.shift_wrap_eq_displaced, ← hf]
    exact compose_moved_congr hp hzero hv (by simp) (by simp)

/-- The upper left cell, coloured alone, is shown at the largest offsets. -/
theorem compose_setOffsets_eq_compose_shift_corner :
    let r : Raster := { blank with
      plane := (Plane.fill 0).set 0 0 5
      palette := Vector.ofFn fun i => ⟨i.val.toUInt8, 0, 0⟩ }
    r.plane.Fits ∧ ∃ moved f, r.shift 255 216 .wrap = .ok moved
      ∧ (r.setOffsets 255 216).compose = .ok f ∧ (moved.setOffsets 0 0).compose = .ok f
      ∧ f.pixel 255 0 = .ok ⟨5, 0, 0, 255⟩ := by
  intro r
  have hget : ∀ x y, x < rasterWidth → y < rasterHeight →
      r.plane.get x y = if 0 = x ∧ 0 = y then 5 else 0 := fun x y hx hy => by
    rw [Plane.get_set hx hy, Plane.get_fill hx hy]
  have hp : r.plane.Fits := fun x y hx hy => by
    rw [hget x y hx hy]
    split_ifs <;> decide
  obtain ⟨⟨moved, f, hm, hf, hz⟩, -⟩ :=
    compose_setOffsets_eq_compose_shift hp 255 (v := 216) (by decide)
  refine ⟨hp, moved, f, hm, hf, hz, ?_⟩
  have hindex : (r.setOffsets 255 216).shownIndex 255 0 = r.plane.get 0 0 := by
    simp [shownIndex, setOffsets]
  rw [pixel_compose hf (by decide) (by decide), hindex, hget 0 0 (by decide) (by decide)]
  rfl

end Raster

end CdGraphics
