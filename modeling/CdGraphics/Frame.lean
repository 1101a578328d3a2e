import CdGraphics.Raster.Basic

/-!
# Frames

A frame is a picture as it is shown: four bytes a cell, red, green, blue and opacity, row after
row. Composing a raster samples its plane through the fine offsets, looks colours up in the
palette and makes the key colour transparent; `pixel_compose` says what each cell then shows.
-/

namespace CdGraphics

/-- A picture of four bytes a cell. -/
structure Frame where
  width : Nat
  height : Nat
  data : Array UInt8
deriving DecidableEq

/-- A cell of a frame. -/
structure Pixel where
  red : UInt8
  green : UInt8
  blue : UInt8
  opacity : UInt8
deriving DecidableEq, Repr

/-- A byte of a cell, red first. -/
def Pixel.byte (p : Pixel) : Nat → UInt8
  | 0 => p.red
  | 1 => p.green
  | 2 => p.blue
  | _ => p.opacity

/-- Bytes of a frame that shows a whole raster. -/
abbrev frameSize : Nat := 259200

theorem frameSize_eq : frameSize = 4 * cellCount := rfl

namespace Frame

/-- The byte at an index, which must lie in the frame. -/
def byte (f : Frame) (index : Nat) : Except Fault UInt8 :=
  if h : index < f.data.size then .ok f.data[index] else .error (.indexOutside f.data.size index)

/-- The cell in column `x` of row `y`. Only its bytes' indices are checked, so that a column
beyond the last counts on into the next row. -/
def pixel (f : Frame) (x y : Nat) : Except Fault Pixel := do
  let index := (x + y * f.width) * 4
  return ⟨← f.byte index, ← f.byte (index + 1), ← f.byte (index + 2), ← f.byte (index + 3)⟩

theorem byte_of_getElem? {f : Frame} {index : Nat} {b : UInt8}
    (h : f.data[index]? = some b) : f.byte index = .ok b := by
  obtain ⟨hi, rfl⟩ := Array.getElem?_eq_some_iff.1 h
  exact dif_pos hi

end Frame

namespace Raster

/-- The colour index that is shown in column `x` of row `y`. -/
def shownIndex (r : Raster) (x y : Nat) : UInt8 :=
  r.plane.get ((x + rasterWidth - r.hOffset.toNat) % rasterWidth)
    ((y + rasterHeight - r.vOffset.toNat) % rasterHeight)

/-- What is shown of a colour index: its palette entry, transparent if it is the key colour. -/
def shown (r : Raster) (index : UInt8) : Pixel :=
  let color := r.palette[index.toNat]?.getD .black
  ⟨color.red, color.green, color.blue, if r.keyColor = some index then 0 else 255⟩

/-- Writes a cell's four bytes from an index of a buffer on. -/
def writePixel (buffer : Array UInt8) (index : Nat) (p : Pixel) : Array UInt8 :=
  (((buffer.setIfInBounds index p.red).setIfInBounds (index + 1) p.green).setIfInBounds
    (index + 2) p.blue).setIfInBounds (index + 3) p.opacity

/-- Writes `count` cells into a buffer, from the cell of number `k` on. -/
def writeCells (r : Raster) : (count k : Nat) → Array UInt8 → Array UInt8
  | 0, _, buffer => buffer
  | count + 1, k, buffer =>
    writeCells r count (k + 1)
      (writePixel buffer (4 * k) (r.shown (r.shownIndex (k % rasterWidth) (k / rasterWidth))))

/-- What composing a raster runs into, if anything: an offset beyond the picture's height, or a
cell whose colour index the palette lacks. -/
def composeFault? (r : Raster) : Option Fault :=
  if rasterHeight < r.vOffset.toNat then some .offsetTooLarge
  else (r.plane.cells.toArray.find? fun index => !colorFits index).map fun index =>
    .indexOutside paletteSize index.toNat

/-- Composes into a buffer, which must have the size of a frame; what it held is overwritten. -/
def composeInto (r : Raster) (buffer : Array UInt8) : Except Fault (Array UInt8) :=
  if buffer.size = frameSize then
    match r.composeFault? with
    | some fault => .error fault
    | none => .ok (r.writeCells cellCount 0 buffer)
  else .error (.bufferSize buffer.size frameSize)

/-- Composes into a fresh frame. -/
def compose (r : Raster) : Except Fault Frame :=
  (r.composeInto (Array.replicate frameSize 0)).map fun data =>
    ⟨rasterWidth, rasterHeight, data⟩

@[simp]
theorem size_writePixel (buffer : Array UInt8) (index : Nat) (p : Pixel) :
    (writePixel buffer index p).size = buffer.size := by
  simp [writePixel]

@[simp]
theorem size_writeCells (r : Raster) : ∀ (count k : Nat) (buffer : Array UInt8),
    (r.writeCells count k buffer).size = buffer.size
  | 0, _, _ => rfl
  | count + 1, k, buffer => by rw [writeCells, size_writeCells r count, size_writePixel]

theorem getElem?_writePixel {buffer : Array UInt8} {index i : Nat} {p : Pixel}
    (h : index + 4 ≤ buffer.size) :
    (writePixel buffer index p)[i]?
      = if index ≤ i ∧ i < index + 4 then some (p.byte (i - index)) else buffer[i]? := by
  simp only [writePixel, Array.getElem?_setIfInBounds, Array.size_setIfInBounds]
  by_cases hi : index ≤ i ∧ i < index + 4
  · obtain ⟨j, hj, rfl⟩ : ∃ j < 4, i = index + j := ⟨i - index, by omega, by omega⟩
    rw [if_pos hi, Nat.add_sub_cancel_left]
    have hs : index + j < buffer.size := by omega
    match j, hj with
    | 0, _ | 1, _ | 2, _ | 3, _ => simp [Pixel.byte]; try omega
  · have h0 : index ≠ i := by omega
    have h1 : index + 1 ≠ i := by omega
    have h2 : index + 2 ≠ i := by omega
    have h3 : index + 3 ≠ i := by omega
    rw [if_neg hi, if_neg h3, if_neg h2, if_neg h1, if_neg h0]

theorem getElem?_writeCells {r : Raster} {i : Nat} : ∀ (count k : Nat) (buffer : Array UInt8),
    4 * (k + count) ≤ buffer.size → (r.writeCells count k buffer)[i]?
      = if 4 * k ≤ i ∧ i < 4 * (k + count) then
          some ((r.shown (r.shownIndex (i / 4 % rasterWidth) (i / 4 / rasterWidth))).byte (i % 4))
        else buffer[i]?
  | 0, k, buffer, _ => by
    have : ¬ (4 * k ≤ i ∧ i < 4 * (k + 0)) := by omega
    rw [writeCells, if_neg this]
  | count + 1, k, buffer, h => by
    rw [writeCells, getElem?_writeCells count (k + 1) _ (by rw [size_writePixel]; omega),
      getElem?_writePixel (by omega)]
    by_cases hk : 4 * k ≤ i ∧ i < 4 * k + 4
    · have h1 : ¬ (4 * (k + 1) ≤ i ∧ i < 4 * (k + 1 + count)) := by omega
      have h2 : 4 * k ≤ i ∧ i < 4 * (k + (count + 1)) := by omega
      have h3 : i / 4 = k := by omega
      have h4 : i % 4 = i - 4 * k := by omega
      rw [if_neg h1, if_pos hk, if_pos h2, h3, h4]
    · have h1 : (4 * (k + 1) ≤ i ∧ i < 4 * (k + 1 + count))
          ↔ (4 * k ≤ i ∧ i < 4 * (k + (count + 1))) := by omega
      simp only [h1, if_neg hk]

theorem data_of_compose {r : Raster} {f : Frame} (h : r.compose = .ok f) :
    f = ⟨rasterWidth, rasterHeight, r.writeCells cellCount 0 (Array.replicate frameSize 0)⟩ := by
  unfold compose composeInto at h
  rw [if_pos (Array.size_replicate ..)] at h
  cases hc : r.composeFault? with
  | some fault => rw [hc] at h; cases h
  | none => rw [hc] at h; exact (Except.ok.inj h).symm

/-- A composed frame shows each cell of the raster. -/
theorem pixel_compose {r : Raster} {f : Frame} (h : r.compose = .ok f) {x y : Nat}
    (hx : x < rasterWidth) (hy : y < rasterHeight) :
    f.pixel x y = .ok (r.shown (r.shownIndex x y)) := by
  have hb : ∀ j < 4, f.byte ((x + y * rasterWidth) * 4 + j)
      = .ok ((r.shown (r.shownIndex x y)).byte j) := by
    intro j hj
    apply Frame.byte_of_getElem?
    have h1 : 4 * 0 ≤ (x + y * rasterWidth) * 4 + j
        ∧ (x + y * rasterWidth) * 4 + j < 4 * (0 + cellCount) := by
      simp only [rasterWidth, rasterHeight, cellCount] at *; omega
    have h2 : ((x + y * rasterWidth) * 4 + j) / 4 % rasterWidth = x := by
      simp only [rasterWidth] at *; omega
    have h3 : ((x + y * rasterWidth) * 4 + j) / 4 / rasterWidth = y := by
      simp only [rasterWidth] at *; omega
    have h4 : ((x + y * rasterWidth) * 4 + j) % 4 = j := by omega
    rw [data_of_compose h, getElem?_writeCells _ _ _ (by rw [Array.size_replicate]; decide),
      if_pos h1, h2, h3, h4]
  have hw : f.width = rasterWidth := by rw [data_of_compose h]
  unfold Frame.pixel
  simp only [hw]
  rw [← Nat.add_zero ((x + y * rasterWidth) * 4), hb 0 (by decide)]
  simp only [Nat.add_zero, hb 1 (by decide), hb 2 (by decide), hb 3 (by decide)]
  rfl

end Raster

end CdGraphics
