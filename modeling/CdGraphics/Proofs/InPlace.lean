import CdGraphics.Proofs.Composing

/-!
# Composing in place

A player can compose into a buffer that it keeps, byte after byte, each cell looked up when its turn
comes. It goes through the picture row by row (`run_putRows`) and so writes what composing gives at
once (`run_composeInPlace`); every byte is overwritten, so what the buffer held does not matter
(`writeCells_eq`). A buffer of another size is refused before anything is written.
-/

namespace CdGraphics

/-- Work on a buffer, which a fault leaves as it finds it. -/
abbrev BufferWork := EStateM Fault (Array UInt8)

namespace BufferWork

variable {α β : Type} {work : BufferWork α} {next : α → BufferWork β} {a : α}
  {buffer after : Array UInt8}

theorem run_bind (h : work.run buffer = .ok a after) :
    (work >>= next).run buffer = (next a).run after := by
  show EStateM.bind work next buffer = _
  unfold EStateM.bind
  rw [show work buffer = .ok a after from h]
  rfl

def putByte (index : Nat) (b : UInt8) : BufferWork Unit := do
  let buffer ← get
  if index < buffer.size then set (buffer.setIfInBounds index b)
  else throw (.indexOutside buffer.size index)

def putPixel (index : Nat) (p : Pixel) : BufferWork Unit := do
  putByte index p.red
  putByte (index + 1) p.green
  putByte (index + 2) p.blue
  putByte (index + 3) p.opacity

theorem run_putByte {index : Nat} (h : index < buffer.size) (b : UInt8) :
    (putByte index b).run buffer = .ok () (buffer.setIfInBounds index b) := by
  have hget : (get : BufferWork (Array UInt8)).run buffer = .ok buffer buffer := rfl
  rw [putByte, run_bind hget, if_pos h]
  rfl

theorem run_putPixel {index : Nat} (h : index + 4 ≤ buffer.size) (p : Pixel) :
    (putPixel index p).run buffer = .ok () (Raster.writePixel buffer index p) := by
  rw [putPixel, run_bind (run_putByte (by omega) p.red),
    run_bind (run_putByte (by rw [Array.size_setIfInBounds]; omega) p.green),
    run_bind (run_putByte (by simp only [Array.size_setIfInBounds]; omega) p.blue),
    run_putByte (by simp only [Array.size_setIfInBounds]; omega) p.opacity]
  rfl

end BufferWork

namespace Raster

open BufferWork

/-- Looks up what is shown of a cell and writes its bytes. -/
def putCell (r : Raster) (y x : Nat) : BufferWork Unit :=
  let index := r.shownIndex x y
  match r.palette[index.toNat]? with
  | none => throw (.indexOutside paletteSize index.toNat)
  | some color => putPixel (4 * (x + y * rasterWidth))
    ⟨color.red, color.green, color.blue, if r.keyColor = some index then 0 else 255⟩

/-- Writes a row, which is shown from as far above as the vertical offset says, once around the
picture at most. -/
def putRow (r : Raster) (y : Nat) : BufferWork Unit :=
  if y + rasterHeight < r.vOffset.toNat then throw .offsetTooLarge
  else (List.range rasterWidth).forM (r.putCell y)

/-- Composes into a buffer, which must have the size of a frame, byte after byte. -/
def composeInPlace (r : Raster) : BufferWork Unit := do
  let buffer ← get
  if buffer.size = frameSize then (List.range rasterHeight).forM r.putRow
  else throw (.bufferSize buffer.size frameSize)

variable {r : Raster} {buffer : Array UInt8} {x y : Nat}

theorem writeCells_add (r : Raster) : ∀ (a b k : Nat) (buffer : Array UInt8),
    r.writeCells (a + b) k buffer = r.writeCells b (k + a) (r.writeCells a k buffer)
  | 0, b, k, buffer => by rw [Nat.zero_add]; rfl
  | a + 1, b, k, buffer => by
    rw [Nat.add_right_comm, writeCells, writeCells_add r a b, writeCells, Nat.add_right_comm,
      Nat.add_assoc k]

/-- Composing overwrites the whole buffer. -/
theorem writeCells_eq (r : Raster) {buffer buffer' : Array UInt8} (h : buffer.size = frameSize)
    (h' : buffer'.size = frameSize) :
    r.writeCells cellCount 0 buffer = r.writeCells cellCount 0 buffer' := by
  have hsize : 4 * (0 + cellCount) = frameSize := rfl
  refine Array.ext_getElem? fun i => ?_
  rw [getElem?_writeCells _ _ _ (by omega), getElem?_writeCells _ _ _ (by omega)]
  split_ifs with hi
  · rfl
  · rw [Array.getElem?_eq_none (by omega), Array.getElem?_eq_none (by omega)]

theorem shownIndex_fits (hp : r.plane.Fits) (x y : Nat) :
    (r.shownIndex x y).toNat < paletteSize :=
  hp _ _ (Nat.mod_lt _ (by decide)) (Nat.mod_lt _ (by decide))

theorem run_putCell (hp : r.plane.Fits) (hx : x < rasterWidth) (hy : y < rasterHeight)
    (hb : buffer.size = frameSize) : (r.putCell y x).run buffer
      = .ok () (writePixel buffer (4 * (x + y * rasterWidth)) (r.shown (r.shownIndex x y))) := by
  have hindex := shownIndex_fits hp x y
  have hcell : 4 * (x + y * rasterWidth) + 4 ≤ buffer.size := by
    have := Plane.index_lt ⟨hx, hy⟩
    rw [hb, frameSize_eq]
    omega
  unfold putCell shown
  simp only [Vector.getElem?_eq_getElem hindex, Option.getD_some]
  exact run_putPixel hcell _

/-- The cells of a row, from column `x` on. -/
theorem run_putCells (hp : r.plane.Fits) (hy : y < rasterHeight) : ∀ (count x : Nat)
    (buffer : Array UInt8), x + count ≤ rasterWidth → buffer.size = frameSize →
    ((List.range' x count).forM (r.putCell y)).run buffer
      = .ok () (r.writeCells count (x + y * rasterWidth) buffer)
  | 0, _, _, _, _ => rfl
  | count + 1, x, buffer, hx, hb => by
    rw [List.range'_succ, List.forM, run_bind (run_putCell hp (by omega) hy hb),
      run_putCells hp hy count (x + 1) _ (by omega) (by rw [size_writePixel, hb]), writeCells,
      Plane.index_mod (by omega), Plane.index_div (by omega), Nat.add_right_comm]

/-- Rows, from row `y` on. -/
theorem run_putRows (hp : r.plane.Fits) (hv : r.vOffset.toNat ≤ rasterHeight) : ∀ (count y : Nat)
    (buffer : Array UInt8), y + count ≤ rasterHeight → buffer.size = frameSize →
    ((List.range' y count).forM r.putRow).run buffer
      = .ok () (r.writeCells (count * rasterWidth) (y * rasterWidth) buffer)
  | 0, _, _, _, _ => by rw [Nat.zero_mul]; rfl
  | count + 1, y, buffer, hy, hb => by
    have hrow : (r.putRow y).run buffer
        = .ok () (r.writeCells rasterWidth (y * rasterWidth) buffer) := by
      rw [putRow, if_neg (by omega), List.range_eq_range',
        run_putCells hp (by omega) rasterWidth 0 buffer (by omega) hb, Nat.zero_add]
    rw [List.range'_succ, List.forM, run_bind hrow,
      run_putRows hp hv count (y + 1) _ (by omega) (by rw [size_writeCells, hb]), Nat.succ_mul,
      Nat.succ_mul, Nat.add_comm (count * rasterWidth), writeCells_add]

theorem run_composeInPlace (hp : r.plane.Fits) (hv : r.vOffset.toNat ≤ rasterHeight)
    (hb : buffer.size = frameSize) :
    r.composeInPlace.run buffer = .ok () (r.writeCells cellCount 0 buffer) := by
  have hget : (get : BufferWork (Array UInt8)).run buffer = .ok buffer buffer := rfl
  rw [composeInPlace, run_bind hget, if_pos hb, List.range_eq_range',
    run_putRows hp hv rasterHeight 0 buffer (by omega) hb]
  rfl

theorem run_composeInPlace_of_size (r : Raster) (hb : buffer.size ≠ frameSize) :
    r.composeInPlace.run buffer = .error (.bufferSize buffer.size frameSize) buffer := by
  have hget : (get : BufferWork (Array UInt8)).run buffer = .ok buffer buffer := rfl
  rw [composeInPlace, run_bind hget, if_neg hb]
  rfl

/-- Where the colours fit and the vertical offset is at most the picture's height, composing gives a
frame that shows in each cell the palette entry of the index that stands the offsets to its left and
above, around the picture, transparent just where that is the key colour. Composed into a buffer of
a frame's size it is the same bytes whatever the buffer held, at once or in place; a buffer of any
other size is refused, and left as it was. -/
theorem compose_overwrites (hp : r.plane.Fits) (hv : r.vOffset.toNat ≤ rasterHeight) :
    ∃ f, r.compose = .ok f ∧ f.width = rasterWidth ∧ f.height = rasterHeight
      ∧ f.data.size = frameSize
      ∧ (∀ x y : Nat, x < rasterWidth → y < rasterHeight →
        let index := r.plane.get (((x : Int) - r.hOffset.toNat) % rasterWidth).toNat
          (((y : Int) - r.vOffset.toNat) % rasterHeight).toNat
        ∃ h : index.toNat < paletteSize, f.pixel x y
          = .ok ⟨r.palette[index.toNat].red, r.palette[index.toNat].green,
            r.palette[index.toNat].blue, if r.keyColor = some index then 0 else 255⟩)
      ∧ (∀ buffer : Array UInt8, buffer.size = frameSize → r.composeInto buffer = .ok f.data
        ∧ r.composeInPlace.run buffer = .ok () f.data)
      ∧ ∀ buffer : Array UInt8, buffer.size ≠ frameSize →
        r.composeInto buffer = .error (.bufferSize buffer.size frameSize)
          ∧ r.composeInPlace.run buffer = .error (.bufferSize buffer.size frameSize) buffer := by
  have hfresh : (Array.replicate frameSize (0 : UInt8)).size = frameSize := Array.size_replicate ..
  have hbytes : ∀ buffer : Array UInt8, buffer.size = frameSize → r.writeCells cellCount 0 buffer
      = r.writeCells cellCount 0 (Array.replicate frameSize 0) :=
    fun buffer hb => writeCells_eq r hb hfresh
  have hsize := (size_writeCells r cellCount 0 _).trans hfresh
  have hcompose := compose_eq hp hv
  generalize r.writeCells cellCount 0 (Array.replicate frameSize 0) = bytes at *
  refine ⟨_, hcompose, rfl, rfl, hsize, fun x y hx hy => ?_, fun buffer hb => ⟨?_, ?_⟩,
    fun buffer hb => ⟨if_neg hb, run_composeInPlace_of_size r hb⟩⟩
  · have hindex := shownIndex_fits hp x y
    have hshown := pixel_compose hcompose hx hy
    rw [shown, Vector.getElem?_eq_getElem hindex, Option.getD_some] at hshown
    simp only [shownIndex_eq_sample hv, Plane.sample] at hindex hshown
    exact ⟨hindex, hshown⟩
  · rw [composeInto_eq hp hv hb, hbytes buffer hb]
  · rw [run_composeInPlace hp hv hb, hbytes buffer hb]

/-- A key-coloured cell near the lower right corner is shown further to the right, around the edge,
in a buffer full of something else; a buffer of three bytes keeps them. -/
theorem compose_overwrites_key :
    let r : Raster := { blank with
      plane := (Plane.fill 3).set 298 214 7
      palette := Vector.ofFn fun i => ⟨i.val.toUInt8, 0, 0⟩
      hOffset := 5
      vOffset := 216
      keyColor := some 7 }
    r.plane.Fits ∧ r.vOffset.toNat ≤ rasterHeight ∧ ∃ f, r.compose = .ok f
      ∧ f.pixel 3 214 = .ok ⟨7, 0, 0, 0⟩ ∧ f.pixel 4 214 = .ok ⟨3, 0, 0, 255⟩
      ∧ r.composeInPlace.run (Array.replicate frameSize 9) = .ok () f.data
      ∧ r.composeInPlace.run #[1, 2, 3] = .error (.bufferSize 3 frameSize) #[1, 2, 3] := by
  intro r
  have hget : ∀ x y, x < rasterWidth → y < rasterHeight →
      r.plane.get x y = if 298 = x ∧ 214 = y then 7 else 3 := fun x y hx hy => by
    rw [Plane.get_set hx hy, Plane.get_fill hx hy]
  have hp : r.plane.Fits := fun x y hx hy => by
    rw [hget x y hx hy]
    split_ifs <;> decide
  have hv : r.vOffset.toNat ≤ rasterHeight := by decide
  obtain ⟨f, hf, -, -, -, hpixels, hbuffers, hother⟩ := compose_overwrites hp hv
  have hkey : r.plane.get 298 214 = 7 := hget 298 214 (by decide) (by decide)
  have hbeside : r.plane.get 299 214 = 3 := hget 299 214 (by decide) (by decide)
  refine ⟨hp, hv, f, hf, ?_, ?_, (hbuffers _ (Array.size_replicate ..)).2,
    (hother #[1, 2, 3] (by decide)).2⟩
  · obtain ⟨_, hpixel⟩ := hpixels 3 214 (by decide) (by decide)
    have hindex : r.plane.get ((((3 : Nat) : Int) - r.hOffset.toNat) % rasterWidth).toNat
        ((((214 : Nat) : Int) - r.vOffset.toNat) % rasterHeight).toNat = 7 := hkey
    simp only [hindex] at hpixel
    exact hpixel
  · obtain ⟨_, hpixel⟩ := hpixels 4 214 (by decide) (by decide)
    have hindex : r.plane.get ((((4 : Nat) : Int) - r.hOffset.toNat) % rasterWidth).toNat
        ((((214 : Nat) : Int) - r.vOffset.toNat) % rasterHeight).toNat = 3 := hbeside
    simp only [hindex] at hpixel
    exact hpixel

end Raster

end CdGraphics
