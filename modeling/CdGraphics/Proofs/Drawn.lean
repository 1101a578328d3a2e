import CdGraphics.Proofs.SafeDrawing

/-!
# What an instruction leaves

Where drawing an instruction does not fault, the raster it leaves is a plain function of the raster
and the instruction (`Instruction.drawn`), and so is what it reports. Each part is a function of
that part alone: the plane of the plane, a palette entry of the entry, a colour reference of the
reference. So a list of instructions moves each part along by itself, and leaves of a palette entry
what its last writer put there (`getElem_loadedAll`).
-/

namespace CdGraphics

namespace Instruction

/-- The plane that an instruction leaves. -/
def drawnOn (i : Instruction) (p : Plane) : Plane :=
  match i with
  | .memoryPreset color _ => .fill color
  | .borderPreset color => p.paintAll Region.border color
  | .tile mode t => if t.onGrid then p.paint t.region (t.paintColor mode) else p
  | .scroll mode s => p.shift s.shift.1 s.shift.2 (Raster.scrollFill mode s.color)
  | _ => p

/-- What an instruction loads into a palette entry. -/
def loaded? (i : Instruction) (k : Nat) : Option Rgb :=
  match i with
  | .loadColors half colors =>
    if half.base ≤ k then colors[k - half.base]?.map Nibbles.expand else none
  | _ => none

def offsets? : Instruction → Option (UInt8 × UInt8)
  | .scroll _ s => some (s.hOffset, s.vOffset)
  | _ => none

def keyColor? : Instruction → Option UInt8
  | .setKeyColor color => some color
  | _ => none

def backgroundColor? : Instruction → Option UInt8
  | .memoryPreset color _ | .borderPreset color => some color
  | .scroll _ s => some s.color
  | _ => none

def borderColor? : Instruction → Option UInt8
  | .borderPreset color => some color
  | _ => none

def memoryColor? : Instruction → Option UInt8
  | .memoryPreset color _ => some color
  | _ => none

/-- What an instruction reports: only a tile off the grid. -/
def reported : Instruction → List Diagnostic
  | .tile _ t => if t.onGrid then [] else [.outOfBounds t.row t.column]
  | _ => []

def loadedInto (i : Instruction) (palette : Vector Rgb paletteSize) : Vector Rgb paletteSize :=
  Vector.ofFn fun k => (i.loaded? k).getD (palette.get k)

/-- The raster that an instruction leaves, part by part. -/
def drawn (i : Instruction) (r : Raster) : Raster where
  palette := i.loadedInto r.palette
  plane := i.drawnOn r.plane
  hOffset := (i.offsets?.map Prod.fst).getD r.hOffset
  vOffset := (i.offsets?.map Prod.snd).getD r.vOffset
  keyColor := i.keyColor?.or r.keyColor
  backgroundColor := i.backgroundColor?.or r.backgroundColor
  borderColor := i.borderColor?.or r.borderColor
  memoryColor := i.memoryColor?.or r.memoryColor

theorem getElem_loadedInto (i : Instruction) (palette : Vector Rgb paletteSize) {k : Nat}
    (h : k < paletteSize) : (i.loadedInto palette)[k] = (i.loaded? k).getD palette[k] := by
  rw [loadedInto, Vector.getElem_ofFn]
  rfl

theorem loadedInto_of_no_load {i : Instruction} (h : ∀ k, i.loaded? k = none)
    (palette : Vector Rgb paletteSize) : i.loadedInto palette = palette := by
  refine Vector.ext fun k hk => ?_
  rw [getElem_loadedInto _ _ hk, h k, Option.getD_none]

/-- Only loading the half of the palette that holds an entry writes it. -/
theorem isSome_loaded?_iff {i : Instruction} {k : Nat} : (i.loaded? k).isSome = true
    ↔ ∃ half colors, i = .loadColors half colors ∧ half.base ≤ k ∧ k < half.base + 8 := by
  constructor
  · intro h
    cases i with
    | loadColors half colors =>
      rw [loaded?] at h
      split_ifs at h with hle
      · rw [Option.isSome_map, isSome_getElem?] at h
        exact ⟨half, colors, rfl, hle, by omega⟩
      · cases h
    | _ => cases h
  · rintro ⟨half, colors, rfl, hle, hlt⟩
    have hk : k - half.base < 8 := by omega
    simp [loaded?, hle, hk]

variable {i : Instruction} {r r' : Raster} {ds : List Diagnostic}

theorem drawn_of_memoryPreset {color repetition : UInt8} (h : r.memoryPreset color = .ok r') :
    r' = (memoryPreset color repetition).drawn r := by
  unfold Raster.memoryPreset Raster.fill at h
  split_ifs at h
  rw [← Except.ok.inj h, drawn, loadedInto_of_no_load fun _ => rfl]
  rfl

theorem drawn_of_borderPreset {color : UInt8} (h : r.borderPreset color = .ok r') :
    r' = (borderPreset color).drawn r := by
  unfold Raster.borderPreset at h
  split_ifs at h
  rw [← Except.ok.inj h, drawn, loadedInto_of_no_load fun _ => rfl]
  rfl

theorem drawn_of_drawTile {mode : TileMode} {t : Tile} (h : r.drawTile mode t = .ok (r', ds)) :
    r' = (tile mode t).drawn r ∧ ds = (tile mode t).reported := by
  unfold Raster.drawTile at h
  rw [drawn, loadedInto_of_no_load (fun _ => rfl), drawnOn, reported]
  split_ifs at h ⊢
  · split at h
    · cases h
    · cases h
      exact ⟨rfl, rfl⟩
  · cases h
    exact ⟨rfl, rfl⟩

theorem drawn_of_scroll {mode : ScrollMode} {s : Scroll} (h : r.scroll mode s = .ok r') :
    r' = (scroll mode s).drawn r := by
  rw [drawn, loadedInto_of_no_load fun _ => rfl]
  unfold Raster.scroll Raster.shift at h
  cases mode with
  | copy => exact (Except.ok.inj h).symm
  | preset =>
    simp only [Raster.scrollFill] at h
    split_ifs at h
    exact (Except.ok.inj h).symm

theorem drawn_of_loadColors {half : PaletteHalf} {colors : Vector Nibbles 8}
    (h : r.loadColors half colors = .ok r') : r' = (loadColors half colors).drawn r := by
  unfold Raster.loadColors at h
  split at h
  · cases h
  · have hp : ∀ k : Fin paletteSize, (if half.base ≤ k.val then
        (colors[k.val - half.base]?.map Nibbles.expand).getD r.palette[k] else r.palette[k])
          = ((loadColors half colors).loaded? k).getD r.palette[k] := fun k => by
      rw [loaded?]
      split_ifs <;> rfl
    simp only [hp] at h
    exact (Except.ok.inj h).symm

/-- Where an instruction is drawn without a fault, this is what it leaves and reports. -/
theorem eq_drawn_of_apply (h : i.apply r = .ok (r', ds)) : r' = i.drawn r ∧ ds = i.reported := by
  have hmap {x : Except Fault Raster} (hx : x.map (·, ([] : List Diagnostic)) = .ok (r', ds)) :
      x = .ok r' ∧ ds = [] := by
    obtain ⟨r'', rfl, hr⟩ := map_eq_ok.1 hx
    cases hr
    exact ⟨rfl, rfl⟩
  cases i with
  | noop =>
    cases h
    rw [drawn, loadedInto_of_no_load fun _ => rfl]
    exact ⟨rfl, rfl⟩
  | memoryPreset color repetition =>
    obtain ⟨hr, rfl⟩ := hmap h
    exact ⟨drawn_of_memoryPreset hr, rfl⟩
  | borderPreset color =>
    obtain ⟨hr, rfl⟩ := hmap h
    exact ⟨drawn_of_borderPreset hr, rfl⟩
  | tile mode t => exact drawn_of_drawTile h
  | scroll mode s =>
    obtain ⟨hr, rfl⟩ := hmap h
    exact ⟨drawn_of_scroll hr, rfl⟩
  | setKeyColor color =>
    cases h
    rw [drawn, loadedInto_of_no_load fun _ => rfl]
    exact ⟨rfl, rfl⟩
  | loadColors half colors =>
    obtain ⟨hr, rfl⟩ := hmap h
    exact ⟨drawn_of_loadColors hr, rfl⟩

end Instruction

namespace Raster

open Instruction

variable {r r' : Raster} {ds : List Diagnostic} {l : List Instruction}

/-- The raster that instructions leave one after the other. -/
def drawnAll (r : Raster) (l : List Instruction) : Raster := l.foldl (fun r i => i.drawn r) r

theorem drawnAll_cons (r : Raster) (i : Instruction) (l : List Instruction) :
    r.drawnAll (i :: l) = (i.drawn r).drawnAll l := by
  rw [drawnAll, List.foldl_cons, drawnAll]

theorem eq_drawnAll_of_execute : ∀ {l : List Instruction} {r : Raster} {ds : List Diagnostic},
    r.execute l = .ok (r', ds) → r' = r.drawnAll l ∧ ds = l.flatMap reported
  | [], r, ds, h => by
    cases h
    exact ⟨rfl, rfl⟩
  | i :: rest, r, ds, h => by
    obtain ⟨⟨s, first⟩, h1, h⟩ := bind_eq_ok.1 h
    obtain ⟨⟨u, later⟩, h2, h⟩ := bind_eq_ok.1 h
    cases h
    obtain ⟨rfl, rfl⟩ := eq_drawn_of_apply h1
    obtain ⟨rfl, rfl⟩ := eq_drawnAll_of_execute h2
    rw [drawnAll_cons, List.flatMap_cons]
    exact ⟨rfl, rfl⟩

/-- Instructions in range are drawn on a well-formed raster, and leave this. -/
theorem WellFormed.execute_eq (h : r.WellFormed) (hl : ∀ i ∈ l, i.InRange) :
    r.execute l = .ok (r.drawnAll l, l.flatMap reported) := by
  obtain ⟨r', ds, he, -⟩ := execute_wellFormed h hl
  obtain ⟨rfl, rfl⟩ := eq_drawnAll_of_execute he
  exact he

theorem WellFormed.execute_quiet (h : r.WellFormed)
    (hl : ∀ i ∈ l, i.InRange ∧ i.reported = []) : r.execute l = .ok (r.drawnAll l, []) := by
  rw [h.execute_eq fun i hi => (hl i hi).1, List.flatMap_eq_nil_iff.2 fun i hi => (hl i hi).2]

/-! ## The parts -/

/-- The raster with another palette. -/
def recolored (r : Raster) (palette : Vector Rgb paletteSize) : Raster :=
  { r with palette := palette }

def loadedAll (palette : Vector Rgb paletteSize) (l : List Instruction) : Vector Rgb paletteSize :=
  l.foldl (fun palette i => i.loadedInto palette) palette

theorem loadedAll_cons (palette : Vector Rgb paletteSize) (i : Instruction)
    (l : List Instruction) : loadedAll palette (i :: l) = loadedAll (i.loadedInto palette) l := by
  rw [loadedAll, List.foldl_cons, loadedAll]

theorem palette_drawnAll : ∀ (l : List Instruction) (r : Raster),
    (r.drawnAll l).palette = loadedAll r.palette l
  | [], _ => rfl
  | i :: rest, r => by rw [drawnAll_cons, palette_drawnAll rest, loadedAll_cons, drawn]

theorem drawn_recolored (i : Instruction) (r : Raster) (palette : Vector Rgb paletteSize) :
    i.drawn (r.recolored palette) = (i.drawn r).recolored (i.loadedInto palette) := rfl

/-- Nothing but the palette depends on the palette. -/
theorem drawnAll_recolored : ∀ (l : List Instruction) (r : Raster)
    (palette : Vector Rgb paletteSize),
    (r.recolored palette).drawnAll l = (r.drawnAll l).recolored (loadedAll palette l)
  | [], _, _ => rfl
  | i :: rest, r, palette => by
    rw [drawnAll_cons, drawnAll_cons, drawn_recolored, drawnAll_recolored rest, loadedAll_cons]

/-- Where an instruction writes a part of the raster or leaves it, a list of them leaves there what
the last to write it wrote. -/
theorem read_drawnAll {α : Type} (read : Raster → α) (write? : Instruction → Option α)
    (h : ∀ i r, read (i.drawn r) = (write? i).getD (read r)) : ∀ (l : List Instruction)
    (r : Raster), read (r.drawnAll l) = (l.reverse.findSome? write?).getD (read r)
  | [], _ => rfl
  | i :: rest, r => by
    rw [drawnAll_cons, read_drawnAll read write? h rest, h, List.reverse_cons,
      List.findSome?_append, Option.getD_or]
    simp

/-- A palette entry is what the last instruction to write it left there. -/
theorem getElem_loadedAll {k : Nat} (hk : k < paletteSize) (l : List Instruction)
    (palette : Vector Rgb paletteSize) : (loadedAll palette l)[k]
      = (l.reverse.findSome? (·.loaded? k)).getD palette[k] := by
  have h := read_drawnAll (fun r => r.palette[k]) (·.loaded? k)
    (fun i r => i.getElem_loadedInto r.palette hk) l (blank.recolored palette)
  simp only [palette_drawnAll] at h
  exact h

end Raster

end CdGraphics
