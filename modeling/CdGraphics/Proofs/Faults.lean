import CdGraphics.Proofs.Registers

/-!
# When drawing faults

An instruction built by hand can hold bytes that no packet carries, and then drawing it may fault.
On a picture whose colours fit, that depends on the instruction alone (`Instruction.Faulty`): a
colour outside the palette is no fault before it is put on a cell, and exclusive or with a colour of
the palette neither helps nor harms (`xor_fits_iff`). What is drawn without a fault leaves colours
that fit, so a list of instructions faults just where it holds one that does
(`execute_faults_iff`).
-/

namespace CdGraphics

theorem xor_fits_iff {a b : UInt8} (ha : a.toNat < paletteSize) :
    (a ^^^ b).toNat < paletteSize ↔ b.toNat < paletteSize := by
  refine ⟨fun h => ?_, xor_fits ha⟩
  have hb : b = a ^^^ (a ^^^ b) := by
    rw [← UInt8.xor_assoc, UInt8.xor_self, UInt8.zero_xor]
  rw [hb]
  exact xor_fits ha h

theorem Nibbles.fits_eq_false_iff {c : Nibbles} : c.fits = false
    ↔ paletteSize ≤ c.red.toNat ∨ paletteSize ≤ c.green.toNat ∨ paletteSize ≤ c.blue.toNat := by
  rw [← Bool.not_eq_true, fits_iff]
  simp only [UInt8.lt_iff_toNat_lt, UInt8.reduceToNat, paletteSize]
  omega

theorem TileMode.combine_fits_iff (mode : TileMode) {old new : UInt8}
    (ho : old.toNat < paletteSize) :
    (mode.combine old new).toNat < paletteSize ↔ new.toNat < paletteSize := by
  cases mode with
  | replace => exact Iff.rfl
  | xor => exact xor_fits_iff ho

/-- Some bit of the tile's bitmap, among the low six of a byte, selects the colour. -/
def Tile.Selects (t : Tile) (color : UInt8) : Prop :=
  ∃ (i : Fin tileHeight) (bit : Nat), bit < 6
    ∧ (if (t.bitmap.get i).toNat.testBit bit then t.setColor else t.clearColor) = color

/-- Drawing the instruction puts a colour outside the palette on a cell or fills with one, or loads
a component of more than four bits. -/
def Instruction.Faulty : Instruction → Prop
  | .memoryPreset color _ | .borderPreset color => paletteSize ≤ color.toNat
  | .scroll .preset s => paletteSize ≤ s.color.toNat
  | .loadColors _ colors => ∃ c ∈ colors.toList,
    paletteSize ≤ c.red.toNat ∨ paletteSize ≤ c.green.toNat ∨ paletteSize ≤ c.blue.toNat
  | .tile _ t => (t.row.toNat < tileRows ∧ t.column.toNat < tileColumns)
    ∧ ∃ color, t.Selects color ∧ paletteSize ≤ color.toNat
  | .noop | .setKeyColor _ | .scroll .copy _ => False

/-! ## Tiles -/

namespace Tile

variable {t : Tile} {p : Plane}

/-- The colours that are selected are those that the tile has for the cells of its place. -/
theorem selects_iff {color : UInt8} : t.Selects color
    ↔ ∃ x y, (x, y) ∈ t.places ∧ t.colorAt (x % tileWidth) (y % tileHeight) = color := by
  have hcolor (i : Fin tileHeight) (j : Nat) : t.colorAt j i
      = if (t.bitmap.get i).toNat.testBit (5 - j) then t.setColor else t.clearColor := by
    rw [colorAt, Vector.getElem?_eq_getElem i.isLt]
    rfl
  constructor
  · rintro ⟨i, bit, hbit, rfl⟩
    refine ⟨t.column.toNat * tileWidth + (5 - bit), t.row.toNat * tileHeight + i, ?_, ?_⟩
    · rw [mem_places, region, Region.contains_tile_iff]
      simp only [tileWidth, tileHeight] at *
      omega
    · have hj : (t.column.toNat * tileWidth + (5 - bit)) % tileWidth = 5 - bit := by
        simp only [tileWidth]
        omega
      have hi : (t.row.toNat * tileHeight + i) % tileHeight = i := by
        rw [Nat.mul_add_mod_self_right, Nat.mod_eq_of_lt i.isLt]
      have hback : 5 - (5 - bit) = bit := by omega
      rw [hj, hi, hcolor, hback]
  · rintro ⟨x, y, -, rfl⟩
    refine ⟨⟨y % tileHeight, Nat.mod_lt _ (by decide)⟩, 5 - x % tileWidth, by omega, ?_⟩
    rw [← hcolor]

theorem fault?_eq_none_iff {mode : TileMode} : t.fault? mode p = none
    ↔ ∀ x y, (x, y) ∈ t.places → (t.paintColor mode x y (p.get x y)).toNat < paletteSize := by
  simp only [fault?, List.findSome?_eq_none_iff, Prod.forall]
  refine forall₃_congr fun x y _ => ?_
  rw [← Raster.colorFits_iff]
  split <;> simp_all

/-- On colours that fit, what a tile's cells become fits just where what it selects does. -/
theorem fault?_eq_none_iff_selects (hp : p.Fits) (hg : t.onGrid = true) (mode : TileMode) :
    t.fault? mode p = none ↔ ∀ color, t.Selects color → color.toNat < paletteSize := by
  have hcell : ∀ x y, (x, y) ∈ t.places →
      ((t.paintColor mode x y (p.get x y)).toNat < paletteSize
        ↔ (t.colorAt (x % tileWidth) (y % tileHeight)).toNat < paletteSize) := by
    intro x y h
    obtain ⟨hx, hy⟩ := inside_of_mem_places hg _ h
    exact mode.combine_fits_iff (hp x y hx hy)
  rw [fault?_eq_none_iff]
  constructor
  · intro h color hs
    obtain ⟨x, y, hmem, rfl⟩ := selects_iff.1 hs
    exact (hcell x y hmem).1 (h x y hmem)
  · intro h x y hmem
    exact (hcell x y hmem).2 (h _ (selects_iff.2 ⟨x, y, hmem, rfl⟩))

end Tile

/-! ## One instruction -/

namespace Instruction

variable {i : Instruction} {p : Plane} {r : Raster}

theorem colorFault?_eq_none_iff {color : UInt8} :
    colorFault? color = none ↔ ¬ paletteSize ≤ color.toNat := by
  unfold colorFault?
  rw [Nat.not_le, ← Raster.colorFits_iff]
  split <;> simp_all

theorem fault?_eq_none_iff (hp : p.Fits) : i.fault? p = none ↔ ¬ i.Faulty := by
  cases i with
  | noop => simp [fault?, Faulty]
  | setKeyColor color => simp [fault?, Faulty]
  | memoryPreset color repetition => exact colorFault?_eq_none_iff
  | borderPreset color => exact colorFault?_eq_none_iff
  | scroll mode s =>
    cases mode with
    | preset => exact colorFault?_eq_none_iff
    | copy => simp [fault?, Faulty]
  | loadColors half colors =>
    simp only [fault?, Faulty, Option.map_eq_none_iff, List.find?_eq_none, Bool.not_eq_true',
      ← Nibbles.fits_eq_false_iff, not_exists, not_and]
  | tile mode t =>
    rw [fault?, Faulty, ← Tile.onGrid_iff]
    split_ifs with hg
    · rw [Tile.fault?_eq_none_iff_selects hp hg]
      simp [hg]
    · simp [hg]

theorem faults_iff_of_fits (hp : r.plane.Fits) (i : Instruction) :
    (∃ fault, i.apply r = .error fault) ↔ i.Faulty := by
  have h := fault?_eq_none_iff (i := i) hp
  rw [apply_eq]
  rcases hf : i.fault? r.plane with _ | fault
  · simpa using h.1 hf
  · simpa [hf] using h

/-- Where nothing faults, colours that fit are drawn over by such. -/
theorem fits_drawnOn_of_not_faulty (hp : p.Fits) (hi : ¬ i.Faulty) : (i.drawnOn p).Fits := by
  intro x y hx hy
  cases i with
  | noop => exact hp x y hx hy
  | setKeyColor color => exact hp x y hx hy
  | loadColors half colors => exact hp x y hx hy
  | memoryPreset color repetition =>
    rw [drawnOn, Plane.get_fill hx hy]
    exact Nat.lt_of_not_le hi
  | borderPreset color =>
    rw [drawnOn, Plane.get_paintAll hx hy]
    split_ifs
    · exact Nat.lt_of_not_le hi
    · exact hp x y hx hy
  | scroll mode s =>
    refine hp.shift (fun c hc => ?_) _ _ x y hx hy
    cases mode with
    | copy => cases hc
    | preset =>
      cases hc
      exact Nat.lt_of_not_le hi
  | tile mode t =>
    have hf := (fault?_eq_none_iff hp).2 hi
    rw [fault?] at hf
    rw [drawnOn]
    split_ifs at hf ⊢
    · rw [Plane.get_paint hx hy]
      split_ifs with hc
      · exact Tile.fault?_eq_none_iff.1 hf x y (Tile.mem_places.2 hc)
      · exact hp x y hx hy
    · exact hp x y hx hy

theorem fits_of_given?_of_not_faulty (hi : ¬ i.Faulty) {k : Nat} {c : Nibbles}
    (h : i.given? k = some c) : c.fits = true := by
  cases i with
  | loadColors half colors =>
    have hin : (loadColors half colors).InRange := fun d hd => by
      rw [← Bool.not_eq_false, Nibbles.fits_eq_false_iff]
      exact fun hwide => hi ⟨d, hd, hwide⟩
    exact fits_of_given? hin h
  | _ => cases h

end Instruction

namespace Raster

open Instruction

variable {r r' : Raster} {i : Instruction} {told : List Diagnostic}

theorem not_faulty_of_apply (h : r.plane.Fits) (ha : i.apply r = .ok (r', told)) :
    ¬ i.Faulty := by
  rw [← faults_iff_of_fits h, ha]
  rintro ⟨fault, hf⟩
  cases hf

theorem fits_of_apply (h : r.plane.Fits) (ha : i.apply r = .ok (r', told)) : r'.plane.Fits := by
  have hi := not_faulty_of_apply h ha
  obtain ⟨rfl, -⟩ := eq_drawn_of_apply ha
  exact fits_drawnOn_of_not_faulty h hi

/-- Colour indices and palette are in their ranges; the other parts of a raster may hold any
bytes. -/
structure Sound (r : Raster) : Prop where
  fits : r.plane.Fits
  spread : ∀ (k : Nat) (hk : k < paletteSize), r.palette[k].IsSpread

theorem WellFormed.sound (h : r.WellFormed) : r.Sound := ⟨h.pixels, h.palette⟩

theorem Sound.apply (h : r.Sound) (ha : i.apply r = .ok (r', told)) : r'.Sound := by
  refine ⟨fits_of_apply h.fits ha, fun k hk => ?_⟩
  have hi := not_faulty_of_apply h.fits ha
  obtain ⟨rfl, -⟩ := eq_drawn_of_apply ha
  show (i.loadedInto r.palette)[k].IsSpread
  rw [getElem_loadedInto _ _ hk, ← map_given?]
  rcases hc : i.given? k with _ | c
  · exact h.spread k hk
  · exact Nibbles.isSpread_expand (fits_of_given?_of_not_faulty hi hc)

end Raster

/-- Drawing an instruction of any bytes faults just where the instruction is faulty: where it fills
with a colour outside the palette, even to move nothing, where it loads a component of more than
four bits, or where its tile lies on the grid and a bit selects a colour outside the palette. Else
every colour index and the palette stay in their ranges. -/
theorem Instruction.apply_faults_iff {r : Raster} (h : r.Sound) (i : Instruction) :
    ((∃ fault, i.apply r = .error fault) ↔ i.Faulty)
      ∧ ∀ r' told, i.apply r = .ok (r', told) → r'.Sound :=
  ⟨faults_iff_of_fits h.fits i, fun _ _ => h.apply⟩

/-- A set colour outside the palette that only the high two bits of a bitmap ask for, and the same
tile where one of the low six does. -/
theorem Instruction.apply_faults_iff_tile :
    let t : Tile := ⟨15, 16, 17, 49, Vector.replicate tileHeight 0xC0⟩
    let u : Tile := { t with bitmap := Vector.replicate tileHeight 0xE0 }
    Raster.blank.Sound ∧ (∃ fault, (tile .xor u).apply .blank = .error fault)
      ∧ ∃ r' told, (tile .xor t).apply .blank = .ok (r', told) ∧ r'.Sound := by
  intro t u
  have hblank := Raster.wellFormed_blank.sound
  have hu : (tile .xor u).Faulty := ⟨by decide, 16, ⟨0, 5, by decide, by decide⟩, by decide⟩
  refine ⟨hblank, (apply_faults_iff hblank _).1.2 hu, ?_⟩
  obtain ⟨hiff, hkeeps⟩ := apply_faults_iff hblank (tile .xor t)
  have hclear : ∀ (i : Fin tileHeight), ∀ bit < 6, (t.bitmap.get i).toNat.testBit bit = false := by
    decide
  have ht : ¬ (tile .xor t).Faulty := by
    rintro ⟨-, color, ⟨i, bit, hbit, rfl⟩, hwide⟩
    rw [hclear i bit hbit] at hwide
    exact absurd hwide (by decide)
  rcases ha : (tile .xor t).apply .blank with fault | ⟨r', told⟩
  · exact absurd (hiff.1 ⟨fault, ha⟩) ht
  · exact ⟨r', told, rfl, hkeeps r' told ha⟩

/-! ## Lists -/

/-- Instructions of any bytes fault, drawn one after the other, just where one of them does. -/
theorem Raster.execute_faults_iff : ∀ {l : List Instruction} {r : Raster}, r.plane.Fits →
    ((∃ fault, r.execute l = .error fault) ↔ ∃ i ∈ l, i.Faulty)
  | [], r, _ => by simp [execute]
  | i :: rest, r, h => by
    have hiff := Instruction.faults_iff_of_fits h i
    rw [List.exists_mem_cons_iff, ← hiff]
    rcases ha : i.apply r with fault | ⟨r', told⟩
    · rw [execute_cons_of_error ha]
      simp
    · have ih := execute_faults_iff (l := rest) (fits_of_apply h ha)
      rw [execute_cons_of_ok ha, ← ih]
      rcases r'.execute rest with fault | out <;> simp [Except.map]

end CdGraphics
