import CdGraphics.Frame
import CdGraphics.Proofs.Cells

/-!
# Drawing is safe

On a well-formed raster every primitive that is called within its range succeeds and leaves the
raster well formed, so an instruction whose fields a packet can carry is drawn without a fault
(`apply_wellFormed`), cell by cell, and so is any list of them (`execute_wellFormed`). A well-formed
raster has a picture (`WellFormed.compose`).
-/

namespace CdGraphics

/-- What every step keeps while it succeeds, a row of steps keeps, and succeeds. -/
theorem foldlM_keeps {ε α σ : Type} {P : σ → Prop} {step : σ → α → Except ε σ} :
    ∀ {l : List α}, (∀ s a, a ∈ l → P s → ∃ s', step s a = .ok s' ∧ P s') →
      ∀ {s : σ}, P s → ∃ s', l.foldlM step s = .ok s' ∧ P s'
  | [], _, s, h => ⟨s, rfl, h⟩
  | a :: rest, hstep, s, h => by
    obtain ⟨s', h1, h'⟩ := hstep s a List.mem_cons_self h
    obtain ⟨s'', h2, h''⟩ :=
      foldlM_keeps (fun t b hb => hstep t b (List.mem_cons_of_mem _ hb)) h'
    refine ⟨s'', ?_, h''⟩
    rw [List.foldlM_cons, h1]
    exact h2

theorem xor_fits {a b : UInt8} (ha : a.toNat < paletteSize) (hb : b.toNat < paletteSize) :
    (a ^^^ b).toNat < paletteSize := by
  rw [UInt8.toNat_xor]
  exact Nat.xor_lt_two_pow (n := 4) ha hb

/-- What is wrapped around into the picture lies in it. -/
theorem toNat_emod_lt {n : Nat} (hn : 0 < n) (x : Int) : (x % n).toNat < n :=
  (Int.toNat_lt' hn).2 (Int.emod_lt_of_pos x (Int.natCast_pos.2 hn))

namespace Plane

variable {p : Plane} {fill : Plane.Fill}

/-- Every cell's colour is one of the palette's. -/
def Fits (p : Plane) : Prop :=
  ∀ x y, x < rasterWidth → y < rasterHeight → (p.get x y).toNat < paletteSize

/-- A scroll reads cells of the picture only, whatever it moves by: another place is wrapped around
into the picture, or not read. -/
theorem sample_cases (p : Plane) (fill : Plane.Fill) (x y : Int) :
    (∃ u v, u < rasterWidth ∧ v < rasterHeight ∧ p.sample fill x y = p.get u v)
      ∨ ∃ c, fill = .color c ∧ p.sample fill x y = c := by
  cases fill with
  | wrap => exact .inl ⟨_, _, toNat_emod_lt (by decide) x, toNat_emod_lt (by decide) y, rfl⟩
  | color c =>
    unfold sample
    split_ifs with h
    · exact .inl ⟨_, _, by omega, by omega, rfl⟩
    · exact .inr ⟨c, rfl, rfl⟩

theorem Fits.sample (h : p.Fits) (hf : ∀ c, fill = .color c → c.toNat < paletteSize) (x y : Int) :
    (p.sample fill x y).toNat < paletteSize := by
  rcases p.sample_cases fill x y with ⟨u, v, hu, hv, hs⟩ | ⟨c, hc, hs⟩
  · rw [hs]
    exact h u v hu hv
  · rw [hs]
    exact hf c hc

theorem Fits.shift (h : p.Fits) (hf : ∀ c, fill = .color c → c.toNat < paletteSize)
    (dx dy : Int) : (p.shift dx dy fill).Fits := by
  intro x y hx hy
  rw [get_shift hx hy]
  exact h.sample hf _ _

theorem Fits.shift_wrap (h : p.Fits) (dx dy : Int) : (p.shift dx dy .wrap).Fits :=
  h.shift (fun _ hc => by cases hc) dx dy

end Plane

namespace Raster

theorem colorFits_iff {c : UInt8} : colorFits c = true ↔ c.toNat < paletteSize := by
  simp [colorFits]

theorem refFits_some {c : UInt8} (h : c.toNat < paletteSize) : RefFits (some c) := by
  rintro d hd
  cases hd
  exact h

variable {r : Raster} {c : UInt8}

namespace WellFormed

theorem withPlane (h : r.WellFormed) {p : Plane} (hp : p.Fits) :
    WellFormed { r with plane := p } :=
  { h with pixels := hp }

/-! ## Primitives -/

theorem setPixel (h : r.WellFormed) {x y : Nat} (hx : x < rasterWidth) (hy : y < rasterHeight)
    (hc : c.toNat < paletteSize) : ∃ r', r.setPixel x y c = .ok r' ∧ r'.WellFormed := by
  refine ⟨{ r with plane := r.plane.set x y c }, ?_, h.withPlane fun u v hu hv => ?_⟩
  · rw [Raster.setPixel, if_pos ⟨hx, hy⟩, if_pos (colorFits_iff.2 hc)]
  · rw [Plane.get_set hu hv]
    split_ifs
    · exact hc
    · exact h.pixels u v hu hv

theorem getPixel (h : r.WellFormed) {x y : Nat} (hx : x < rasterWidth) (hy : y < rasterHeight) :
    ∃ c, r.getPixel x y = .ok c ∧ c.toNat < paletteSize :=
  ⟨r.plane.get x y, if_pos ⟨hx, hy⟩, h.pixels x y hx hy⟩

theorem fill (h : r.WellFormed) (hc : c.toNat < paletteSize) :
    ∃ r', r.fill c = .ok r' ∧ r'.WellFormed := by
  refine ⟨{ r with plane := .fill c }, if_pos (colorFits_iff.2 hc), h.withPlane fun x y hx hy => ?_⟩
  rwa [Plane.get_fill hx hy]

theorem setPaletteEntry (h : r.WellFormed) {i : Nat} (hi : i < paletteSize) {color : Nibbles}
    (hc : color.fits = true) : ∃ r', r.setPaletteEntry i color = .ok r' ∧ r'.WellFormed := by
  refine ⟨_, setPaletteEntry_of_fits r hi hc, { h with palette := fun j hj => ?_ }⟩
  rw [Vector.getElem_setIfInBounds]
  split_ifs
  · exact Nibbles.isSpread_expand hc
  · exact h.palette j hj

theorem shift (h : r.WellFormed) (dx dy : Int) {fill : Plane.Fill}
    (hf : ∀ c, fill = .color c → c.toNat < paletteSize) :
    ∃ r', r.shift dx dy fill = .ok r' ∧ r'.WellFormed := by
  have hp : r.plane.Fits := h.pixels
  refine ⟨_, ?_, h.withPlane (hp.shift hf dx dy)⟩
  cases fill with
  | wrap => rfl
  | color c => exact if_pos (colorFits_iff.2 (hf c rfl))

theorem setOffsets (h : r.WellFormed) {u v : UInt8} (hu : u.toNat < tileWidth)
    (hv : v.toNat < tileHeight) : (r.setOffsets u v).WellFormed :=
  { h with hOffset := hu, vOffset := hv }

theorem setKeyColor (h : r.WellFormed) (hc : c.toNat < paletteSize) :
    (r.setKeyColor c).WellFormed :=
  { h with keyColor := refFits_some hc }

theorem setBackgroundColor (h : r.WellFormed) (hc : c.toNat < paletteSize) :
    (r.setBackgroundColor c).WellFormed :=
  { h with backgroundColor := refFits_some hc }

theorem setBorderColor (h : r.WellFormed) (hc : c.toNat < paletteSize) :
    (r.setBorderColor c).WellFormed :=
  { h with borderColor := refFits_some hc }

theorem setMemoryColor (h : r.WellFormed) (hc : c.toNat < paletteSize) :
    (r.setMemoryColor c).WellFormed :=
  { h with memoryColor := refFits_some hc }

end WellFormed

/-! ## Pictures -/

theorem cell_fits (h : r.plane.Fits) : ∀ c ∈ r.plane.cells.toArray, colorFits c = true := by
  intro c hc
  obtain ⟨i, hi, rfl⟩ := Array.mem_iff_getElem.1 hc
  have hi' : i < cellCount := by simpa using hi
  obtain ⟨hx, hy⟩ := Plane.place_of_index_lt hi'
  have hg := h _ _ hx hy
  rw [← Plane.getElem_cells _ hi'] at hg
  exact colorFits_iff.2 hg

theorem composeFault?_eq_none (h : r.plane.Fits) (hv : r.vOffset.toNat ≤ rasterHeight) :
    r.composeFault? = none := by
  unfold composeFault?
  rw [if_neg (Nat.not_lt_of_le hv), Option.map_eq_none_iff, Array.find?_eq_none]
  intro c hc
  simp [cell_fits h c hc]

theorem composeInto_eq (h : r.plane.Fits) (hv : r.vOffset.toNat ≤ rasterHeight)
    {buffer : Array UInt8} (hb : buffer.size = frameSize) :
    r.composeInto buffer = .ok (r.writeCells cellCount 0 buffer) := by
  rw [composeInto, if_pos hb, composeFault?_eq_none h hv]

/-- A raster whose colours fit and whose fine offset is not beyond its height has a picture. -/
theorem compose_eq (h : r.plane.Fits) (hv : r.vOffset.toNat ≤ rasterHeight) : r.compose
    = .ok ⟨rasterWidth, rasterHeight, r.writeCells cellCount 0 (Array.replicate frameSize 0)⟩ := by
  rw [compose, composeInto_eq h hv (Array.size_replicate ..)]
  rfl

theorem WellFormed.compose (h : r.WellFormed) : ∃ f, r.compose = .ok f := by
  have hv : r.vOffset.toNat ≤ rasterHeight := Nat.le_of_lt (Nat.lt_trans h.vOffset (by decide))
  exact ⟨_, compose_eq h.pixels hv⟩

end Raster

/-! ## Instructions -/

open Raster

variable {r : Raster}

theorem memoryPreset_wellFormed (h : r.WellFormed) {c : UInt8} (hc : c.toNat < paletteSize) :
    ∃ r', r.memoryPreset c = .ok r' ∧ r'.WellFormed :=
  ((h.setMemoryColor hc).setBackgroundColor hc).fill hc

theorem borderPreset_wellFormed (h : r.WellFormed) {c : UInt8} (hc : c.toNat < paletteSize) :
    ∃ r', r.borderPreset c = .ok r' ∧ r'.WellFormed := by
  rw [borderPreset_eq_cells]
  refine foldlM_keeps (fun r place hp hr => ?_) ((h.setBorderColor hc).setBackgroundColor hc)
  obtain ⟨⟨hx, hy⟩, -⟩ := mem_borderCells.1 hp
  exact hr.setPixel hx hy hc

theorem colorAt_fits {t : Tile} (ht : t.InRange) (j i : Nat) :
    (t.colorAt j i).toNat < paletteSize := by
  unfold Tile.colorAt
  split_ifs
  · exact ht.setColor
  · exact ht.clearColor

theorem paintColor_fits {t : Tile} (ht : t.InRange) (mode : TileMode) (x y : Nat) {old : UInt8}
    (ho : old.toNat < paletteSize) : (t.paintColor mode x y old).toNat < paletteSize := by
  cases mode with
  | replace => exact colorAt_fits ht _ _
  | xor => exact xor_fits ho (colorAt_fits ht _ _)

theorem drawTile_wellFormed (h : r.WellFormed) (mode : TileMode) {t : Tile} (ht : t.InRange) :
    ∃ r' reported, r.drawTile mode t = .ok (r', reported) ∧ r'.WellFormed := by
  rw [drawTile_eq_cells]
  split_ifs with hg
  · have hcell : ∀ r place, place ∈ t.places → r.WellFormed →
        ∃ r', paintCell (t.paintColor mode) r place = .ok r' ∧ r'.WellFormed := by
      intro r place hp hr
      obtain ⟨hx, hy⟩ := Tile.inside_of_mem_places hg place hp
      obtain ⟨old, hold, ho⟩ := hr.getPixel hx hy
      rw [paintCell, hold]
      exact hr.setPixel hx hy (paintColor_fits ht mode _ _ ho)
    obtain ⟨r', h1, h'⟩ := foldlM_keeps hcell h
    exact ⟨r', [], by rw [h1]; rfl, h'⟩
  · exact ⟨r, _, rfl, h⟩

theorem scroll_wellFormed (h : r.WellFormed) (mode : ScrollMode) {s : Scroll} (hs : s.InRange) :
    ∃ r', r.scroll mode s = .ok r' ∧ r'.WellFormed := by
  have hu : s.hOffset.toNat < tileWidth := Nat.lt_succ_of_le hs.hOffset
  have hv : s.vOffset.toNat < tileHeight := Nat.lt_succ_of_le hs.vOffset
  refine ((h.setBackgroundColor hs.color).setOffsets hu hv).shift _ _ fun c hc => ?_
  cases mode with
  | copy => cases hc
  | preset =>
    cases hc
    exact hs.color

theorem loadColors_wellFormed (h : r.WellFormed) (half : PaletteHalf) {colors : Vector Nibbles 8}
    (hc : ∀ c ∈ colors.toList, c.fits = true) :
    ∃ r', r.loadColors half colors = .ok r' ∧ r'.WellFormed := by
  rw [loadColors_eq_entries]
  refine foldlM_keeps (fun r entry he hr => ?_) h
  obtain ⟨h1, h2, h3⟩ := List.mem_zipIdx he
  have hi : entry.2 < paletteSize := by
    rw [Vector.length_toList] at h2
    have : half.base ≤ 8 := by cases half <;> decide
    simp only [paletteSize]
    omega
  exact hr.setPaletteEntry hi (hc _ (h3 ▸ List.getElem_mem _))

/-- An instruction of fields that a packet can carry is drawn without a fault. -/
theorem apply_wellFormed (h : r.WellFormed) {i : Instruction} (hi : i.InRange) :
    ∃ r' reported, i.apply r = .ok (r', reported) ∧ r'.WellFormed := by
  have hmap {x : Except Fault Raster} (hx : ∃ r', x = .ok r' ∧ r'.WellFormed) :
      ∃ r' reported, x.map (·, ([] : List Diagnostic)) = .ok (r', reported) ∧ r'.WellFormed := by
    obtain ⟨r', rfl, h'⟩ := hx
    exact ⟨r', [], rfl, h'⟩
  cases i with
  | noop => exact ⟨r, [], rfl, h⟩
  | memoryPreset color repetition => exact hmap (memoryPreset_wellFormed h hi.1)
  | borderPreset color => exact hmap (borderPreset_wellFormed h hi)
  | tile mode t => exact drawTile_wellFormed h mode hi
  | scroll mode s => exact hmap (scroll_wellFormed h mode hi)
  | setKeyColor color => exact ⟨_, [], rfl, h.setKeyColor hi⟩
  | loadColors half colors => exact hmap (loadColors_wellFormed h half hi)

theorem execute_wellFormed : ∀ {l : List Instruction} {r : Raster}, r.WellFormed →
    (∀ i ∈ l, i.InRange) → ∃ r' reported, r.execute l = .ok (r', reported) ∧ r'.WellFormed
  | [], r, h, _ => ⟨r, [], rfl, h⟩
  | i :: rest, r, h, hl => by
    obtain ⟨r', reported, h1, h'⟩ := apply_wellFormed h (hl i List.mem_cons_self)
    obtain ⟨r'', later, h2, h''⟩ :=
      execute_wellFormed h' fun j hj => hl j (List.mem_cons_of_mem _ hj)
    refine ⟨r'', reported ++ later, ?_, h''⟩
    rw [Raster.execute, h1]
    simp only [bind, Except.bind, h2]
    rfl

end CdGraphics
