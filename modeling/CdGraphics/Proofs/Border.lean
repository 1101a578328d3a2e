import CdGraphics.Proofs.Faults
import Mathlib.Data.Finset.Prod
import Mathlib.Order.Interval.Finset.Nat

/-!
# The border and what it frames

A border preset paints the cells outside the display and no others, 9504 of them (`card_border`).
What a memory preset left inside stays through any instructions that put no colour on a cell
(`Instruction.Paints`), which is how content gives the picture and its frame a colour each. Of
border presets in a row only the last one shows (`execute_borderPreset`).
-/

namespace CdGraphics

theorem card_border : ((Finset.range rasterWidth ×ˢ Finset.range rasterHeight).filter
    fun place => Region.display.contains place.1 place.2 = false).card = 9504 := by
  have hborder : (Finset.range rasterWidth ×ˢ Finset.range rasterHeight).filter
      (fun place => Region.display.contains place.1 place.2 = false)
        = (Finset.range rasterWidth ×ˢ Finset.range rasterHeight)
          \ (Finset.Ico 6 294 ×ˢ Finset.Ico 12 204) := by
    ext ⟨x, y⟩
    simp only [Finset.mem_filter, Finset.mem_sdiff, Finset.mem_product, Finset.mem_range,
      Finset.mem_Ico, ← Bool.not_eq_true, Region.contains_iff, Region.display, tileWidth,
      tileHeight, rasterWidth, rasterHeight]
  have hinside : Finset.Ico 6 294 ×ˢ Finset.Ico 12 204
      ⊆ Finset.range rasterWidth ×ˢ Finset.range rasterHeight := by
    rw [Finset.range_eq_Ico, Finset.range_eq_Ico]
    exact Finset.product_subset_product (Finset.Ico_subset_Ico (by decide) (by decide))
      (Finset.Ico_subset_Ico (by decide) (by decide))
  rw [hborder, Finset.card_sdiff_of_subset hinside]
  simp only [Finset.card_product, Finset.card_range, Nat.card_Ico, rasterWidth, rasterHeight]

namespace Instruction

/-- Drawing the instruction may put a colour on a cell: a tile that lies off the grid and a scroll
that asks for no move do not. -/
def Paints : Instruction → Prop
  | .memoryPreset .. | .borderPreset _ => True
  | .tile _ t => t.onGrid = true
  | .scroll _ s => s.shift ≠ (0, 0)
  | .noop | .setKeyColor _ | .loadColors .. => False

variable {i : Instruction} {l : List Instruction} {p : Plane} {c : UInt8}

theorem drawnOn_of_not_paints (h : ¬ i.Paints) (p : Plane) : i.drawnOn p = p := by
  cases i with
  | noop => rfl
  | setKeyColor color => rfl
  | loadColors half colors => rfl
  | memoryPreset color repetition => exact absurd trivial h
  | borderPreset color => exact absurd trivial h
  | tile mode t => exact if_neg h
  | scroll mode s =>
    have hs : s.shift = (0, 0) := not_not.1 h
    rw [drawnOn, hs]
    exact if_pos ⟨rfl, rfl⟩

theorem drawnAll_of_not_paints : ∀ {l : List Instruction}, (∀ i ∈ l, ¬ i.Paints) →
    ∀ p : Plane, p.drawnAll l = p
  | [], _, _ => rfl
  | i :: rest, h, p => by
    obtain ⟨hi, hrest⟩ := List.forall_mem_cons.1 h
    rw [Plane.drawnAll_cons, drawnOn_of_not_paints hi, drawnAll_of_not_paints hrest]

theorem plane_drawn (i : Instruction) (r : Raster) : (i.drawn r).plane = i.drawnOn r.plane := rfl

/-- A border preset leaves the display as it was. -/
theorem get_drawnOn_borderPreset {x y : Nat} (hx : x < rasterWidth) (hy : y < rasterHeight) :
    ((borderPreset c).drawnOn p).get x y
      = if Region.display.contains x y = true then p.get x y else c := by
  rw [drawnOn, Plane.get_paintAll hx hy, Region.any_border hx hy]
  cases Region.display.contains x y <;> rfl

theorem drawn_borderPreset (c : UInt8) (r : Raster) : (borderPreset c).drawn r
    = { r with
        plane := (borderPreset c).drawnOn r.plane
        borderColor := some c
        backgroundColor := some c } := by
  rw [drawn, loadedInto_of_no_load fun _ => rfl]
  rfl

theorem drawn_borderPreset_twice (c d : UInt8) (r : Raster) :
    (borderPreset d).drawn ((borderPreset c).drawn r) = (borderPreset d).drawn r := by
  have hplane : (borderPreset d).drawnOn ((borderPreset c).drawnOn r.plane)
      = (borderPreset d).drawnOn r.plane := by
    refine Plane.ext_get fun x y hx hy => ?_
    simp only [get_drawnOn_borderPreset hx hy]
    split_ifs <;> rfl
  simp only [drawn_borderPreset, hplane]

theorem apply_borderPreset (hc : c.toNat < paletteSize) (r : Raster) :
    (borderPreset c).apply r = .ok ((borderPreset c).drawn r, []) := by
  have hf : (borderPreset c).fault? r.plane = none :=
    colorFault?_eq_none_iff.2 (Nat.not_le_of_lt hc)
  rw [apply_eq, hf]
  rfl

theorem apply_memoryPreset (hc : c.toNat < paletteSize) (repetition : UInt8) (r : Raster) :
    (memoryPreset c repetition).apply r = .ok ((memoryPreset c repetition).drawn r, []) := by
  have hf : (memoryPreset c repetition).fault? r.plane = none :=
    colorFault?_eq_none_iff.2 (Nat.not_le_of_lt hc)
  rw [apply_eq, hf]
  rfl

/-- The picture and its frame, with anything between the two presets that puts no colour on a
cell. -/
theorem get_drawnAll_framed {d repetition : UInt8} (hl : ∀ i ∈ l, ¬ i.Paints) {x y : Nat}
    (hx : x < rasterWidth) (hy : y < rasterHeight) :
    (p.drawnAll (memoryPreset c repetition :: (l ++ [borderPreset d]))).get x y
      = if Region.display.contains x y = true then c else d := by
  have hfirst : (memoryPreset c repetition).drawnOn p = .fill c := rfl
  rw [Plane.drawnAll_cons, Plane.drawnAll_append, drawnAll_of_not_paints hl, hfirst,
    Plane.drawnAll, List.foldl_cons, List.foldl_nil, get_drawnOn_borderPreset hx hy,
    Plane.get_fill hx hy]

/-- A frame around a preset picture faults only if something drawn between them does. -/
theorem execute_framed_iff (hc : c.toNat < paletteSize) {d : UInt8} (hd : d.toNat < paletteSize)
    (repetition : UInt8) (l : List Instruction) (r : Raster) :
    (∃ fault, r.execute (memoryPreset c repetition :: (l ++ [borderPreset d])) = .error fault)
      ↔ ∃ i ∈ l, i.Faulty := by
  have hfits : ((memoryPreset c repetition).drawn r).plane.Fits := by
    intro x y hx hy
    rwa [plane_drawn, drawnOn, Plane.get_fill hx hy]
  have hborder : ¬ (borderPreset d).Faulty := Nat.not_le_of_lt hd
  have hiff := Raster.execute_faults_iff (l := l ++ [borderPreset d]) hfits
  simp only [List.mem_append, List.mem_singleton, or_and_right, exists_or, exists_eq_left,
    hborder, or_false] at hiff
  rw [← hiff, Raster.execute_cons_of_ok (apply_memoryPreset hc repetition r)]
  rcases Raster.execute _ (l ++ [borderPreset d]) with fault | out <;> simp [Except.map]

/-- A border preset of a colour of the palette puts it on the cells outside the display, which are
9504, leaves those inside as they were and makes it the border and background colour; nothing else
changes. So a memory preset and then a border preset give one colour to the display and one to the
border, if nothing between them paints, and fault only where something between them does. A border
preset after another leaves what it leaves alone, the same one again included. -/
theorem execute_borderPreset (hc : c.toNat < paletteSize) (r : Raster) :
    (∃ r', (borderPreset c).apply r = .ok (r', [])
      ∧ (∀ x y, x < rasterWidth → y < rasterHeight → r'.plane.get x y
        = if Region.display.contains x y = true then r.plane.get x y else c)
      ∧ r' = { r with plane := r'.plane, borderColor := some c, backgroundColor := some c })
    ∧ ((Finset.range rasterWidth ×ˢ Finset.range rasterHeight).filter
      fun place => Region.display.contains place.1 place.2 = false).card = 9504
    ∧ (∀ (d repetition : UInt8) (l : List Instruction), d.toNat < paletteSize →
      (∀ i ∈ l, ¬ i.Paints) →
      ((∃ fault, r.execute (memoryPreset c repetition :: (l ++ [borderPreset d])) = .error fault)
        ↔ ∃ i ∈ l, i.Faulty)
      ∧ ∀ r' told, r.execute (memoryPreset c repetition :: (l ++ [borderPreset d]))
          = .ok (r', told) →
        ∀ x y, x < rasterWidth → y < rasterHeight →
          r'.plane.get x y = if Region.display.contains x y = true then c else d)
    ∧ ∀ d, r.execute [borderPreset c, borderPreset d] = r.execute [borderPreset d] := by
  refine ⟨⟨_, apply_borderPreset hc r, fun x y hx hy => ?_, ?_⟩, card_border,
    fun d repetition l hd hl => ⟨execute_framed_iff hc hd repetition l r, ?_⟩, fun d => ?_⟩
  · rw [plane_drawn, get_drawnOn_borderPreset hx hy]
  · rw [plane_drawn, drawn_borderPreset]
  · intro r' told h x y hx hy
    obtain ⟨rfl, -⟩ := Raster.eq_drawnAll_of_execute h
    rw [Raster.plane_drawnAll]
    exact get_drawnAll_framed hl hx hy
  · have hf (p : Plane) : (borderPreset d).fault? p = colorFault? d := rfl
    rw [Raster.execute_cons_of_ok (apply_borderPreset hc r), Raster.execute_singleton,
      Raster.execute_singleton, apply_eq, apply_eq, hf, hf, drawn_borderPreset_twice]
    rcases colorFault? d with _ | fault <;> rfl

/-- Key colour, palette, a still scroll and a tile below the grid between the presets, on a picture
that showed another colour. -/
theorem execute_borderPreset_framed :
    let r : Raster := { Raster.blank with plane := .fill 9 }
    let l : List Instruction := [setKeyColor 200, loadColors .low (Vector.replicate 8 ⟨1, 2, 3⟩),
      scroll .preset ⟨6, .none, 5, .none, 0⟩, tile .xor ⟨1, 200, 18, 0, Vector.replicate 12 63⟩]
    (5 : UInt8).toNat < paletteSize ∧ (3 : UInt8).toNat < paletteSize ∧ (∀ i ∈ l, ¬ i.Paints)
      ∧ (∃ r' told, r.execute (memoryPreset 5 1 :: (l ++ [borderPreset 3])) = .ok (r', told)
        ∧ r'.plane.get 6 12 = 5 ∧ r'.plane.get 293 203 = 5 ∧ r'.plane.get 5 12 = 3
        ∧ r'.plane.get 293 204 = 3)
      ∧ (∃ r', (borderPreset 5).apply r = .ok (r', []) ∧ r'.plane.get 0 215 = 5
        ∧ r'.plane.get 150 108 = 9 ∧ r'.keyColor = none ∧ r'.borderColor = some 5)
      ∧ r.execute [borderPreset 5, borderPreset 5] = r.execute [borderPreset 5] := by
  intro r l
  have hc : (5 : UInt8).toNat < paletteSize := by decide
  have hd : (3 : UInt8).toNat < paletteSize := by decide
  have hl : ∀ i ∈ l, ¬ i.Paints := by simp [l, Paints, Scroll.shift, Tile.onGrid,
    HorizontalMove.delta, VerticalMove.delta]
  obtain ⟨⟨r', happly, hget, hrest⟩, -, hframed, htwice⟩ := execute_borderPreset hc r
  obtain ⟨hiff, hcells⟩ := hframed 3 1 l hd hl
  have hnot : ¬ ∃ i ∈ l, i.Faulty := by
    simp [l, Faulty, paletteSize]
  have hold : r.plane.get 150 108 = 9 := Plane.get_fill (by decide) (by decide)
  refine ⟨hc, hd, hl, ?_, ⟨r', happly, ?_, ?_, ?_, ?_⟩, htwice 5⟩
  · rcases hout : r.execute (memoryPreset 5 1 :: (l ++ [borderPreset 3])) with fault | ⟨s, told⟩
    · exact absurd (hiff.1 ⟨fault, hout⟩) hnot
    · have hs := hcells s told hout
      refine ⟨s, told, rfl, ?_, ?_, ?_, ?_⟩
      · exact hs 6 12 (by decide) (by decide)
      · exact hs 293 203 (by decide) (by decide)
      · exact hs 5 12 (by decide) (by decide)
      · exact hs 293 204 (by decide) (by decide)
  · exact hget 0 215 (by decide) (by decide)
  · rw [hget 150 108 (by decide) (by decide), hold]
    rfl
  · rw [hrest]
    rfl
  · rw [hrest]

end Instruction

end CdGraphics
