import CdGraphics.Proofs.Outcome

/-!
# Registers

A palette entry, the fine offsets and each of the four colours referred to are registers: what an
instruction writes to one depends on the instruction alone, and the others it leaves as they are. So
after any instructions a register holds what the last one to write it wrote, or what it held before
them all (`execute_registers`).
-/

namespace CdGraphics

namespace Nibbles

/-- Four bits are spread by the factor 17, which eight bits hold. -/
theorem toNat_expand {c : Nibbles} (h : c.fits = true) :
    c.expand.red.toNat = 17 * c.red.toNat ∧ c.expand.green.toNat = 17 * c.green.toNat
      ∧ c.expand.blue.toNat = 17 * c.blue.toNat := by
  obtain ⟨hr, hg, hb⟩ := fits_iff.1 h
  rw [UInt8.lt_iff_toNat_lt] at hr hg hb
  simp only [UInt8.reduceToNat] at hr hg hb
  simp only [expand, UInt8.toNat_mul, UInt8.reduceToNat]
  omega

end Nibbles

namespace Instruction

variable {i : Instruction} {l : List Instruction} {k : Nat} {c : Nibbles}

/-- The colour that an instruction gives for a palette entry: the eight that it loads are for the
entries of one half. -/
def given? (i : Instruction) (k : Nat) : Option Nibbles :=
  match i with
  | .loadColors half colors => if half.base ≤ k then colors[k - half.base]? else none
  | _ => none

theorem map_given? (i : Instruction) (k : Nat) : (i.given? k).map Nibbles.expand = i.loaded? k := by
  unfold given? loaded?
  cases i with
  | loadColors half colors =>
    simp only
    split <;> rfl
  | _ => rfl

theorem fits_of_given? (hi : i.InRange) (h : i.given? k = some c) : c.fits = true := by
  unfold given? at h
  split at h
  · rename_i half colors
    split_ifs at h
    obtain ⟨hk, rfl⟩ := Vector.getElem?_eq_some_iff.1 h
    exact hi _ (Vector.mem_toList_iff.2 (Vector.getElem_mem hk))
  · cases h

theorem fits_of_findSome?_given? (hl : ∀ i ∈ l, i.InRange)
    (h : l.reverse.findSome? (·.given? k) = some c) : c.fits = true := by
  obtain ⟨i, hi, hc⟩ := List.exists_of_findSome?_eq_some h
  exact fits_of_given? (hl i (List.mem_reverse.1 hi)) hc

end Instruction

namespace Raster

open Instruction

variable {r : Raster} {l : List Instruction}

/-- As `read_drawnAll`, for a colour that is referred to or not. -/
theorem ref_drawnAll (read : Raster → Option UInt8) (write? : Instruction → Option UInt8)
    (h : ∀ i r, read (i.drawn r) = (write? i).or (read r)) (l : List Instruction) (r : Raster) :
    read (r.drawnAll l) = (l.reverse.findSome? write?).or (read r) := by
  have hor : ∀ a b : Option UInt8, a.or b = (a.map some).getD b := by
    rintro (_ | a) b <;> rfl
  rw [read_drawnAll read (fun i => (write? i).map some) (fun i r => by rw [h, hor]), hor,
    List.map_findSome?]
  rfl

theorem offsets_drawnAll (l : List Instruction) (r : Raster) :
    ((r.drawnAll l).hOffset, (r.drawnAll l).vOffset)
      = (l.reverse.findSome? offsets?).getD (r.hOffset, r.vOffset) := by
  refine read_drawnAll (fun r => (r.hOffset, r.vOffset)) offsets? (fun i r => ?_) l r
  simp only [drawn]
  rcases i.offsets? with _ | o <;> rfl

theorem getElem_palette_drawnAll {k : Nat} (hk : k < paletteSize) (l : List Instruction)
    (r : Raster) : (r.drawnAll l).palette[k]
      = ((l.reverse.findSome? (·.given? k)).map Nibbles.expand).getD r.palette[k] := by
  simp only [palette_drawnAll, getElem_loadedAll hk, List.map_findSome?]
  congr 2
  funext i
  exact (i.map_given? k).symm

/-- After instructions in range, a palette entry is 17 times the colour that the last load of its
half gives for it, the fine offsets are those of the last scroll, and each colour referred to is
that of the last instruction to set it. What no instruction of the list writes is as it was, a tile
that is skipped included. -/
theorem execute_registers (hr : r.WellFormed) (hl : ∀ i ∈ l, i.InRange) :
    ∃ r' told, r.execute l = .ok (r', told)
      ∧ (∀ (k : Nat) (hk : k < paletteSize),
        (∀ c, l.reverse.findSome? (·.given? k) = some c →
          r'.palette[k].red.toNat = 17 * c.red.toNat
            ∧ r'.palette[k].green.toNat = 17 * c.green.toNat
            ∧ r'.palette[k].blue.toNat = 17 * c.blue.toNat)
        ∧ (l.reverse.findSome? (·.given? k) = none → r'.palette[k] = r.palette[k]))
      ∧ r'.keyColor = (l.reverse.findSome? keyColor?).or r.keyColor
      ∧ r'.memoryColor = (l.reverse.findSome? memoryColor?).or r.memoryColor
      ∧ r'.borderColor = (l.reverse.findSome? borderColor?).or r.borderColor
      ∧ r'.backgroundColor = (l.reverse.findSome? backgroundColor?).or r.backgroundColor
      ∧ (r'.hOffset, r'.vOffset)
        = (l.reverse.findSome? offsets?).getD (r.hOffset, r.vOffset) := by
  refine ⟨_, _, hr.execute_eq hl, fun k hk => ⟨fun c hc => ?_, fun hc => ?_⟩,
    ref_drawnAll keyColor keyColor? (fun _ _ => rfl) l r,
    ref_drawnAll memoryColor memoryColor? (fun _ _ => rfl) l r,
    ref_drawnAll borderColor borderColor? (fun _ _ => rfl) l r,
    ref_drawnAll backgroundColor backgroundColor? (fun _ _ => rfl) l r, offsets_drawnAll l r⟩
  · rw [getElem_palette_drawnAll hk, hc]
    exact Nibbles.toNat_expand (fits_of_findSome?_given? hl hc)
  · rw [getElem_palette_drawnAll hk, hc]
    rfl

/-- Two loads of one half around instructions that set every colour, the last of them a tile off
the grid. -/
theorem execute_registers_overwritten :
    let l : List Instruction := [.loadColors .low (Vector.replicate 8 ⟨1, 2, 3⟩), .setKeyColor 9,
      .scroll .preset ⟨6, .right, 5, .none, 0⟩, .memoryPreset 3 1, .borderPreset 4,
      .loadColors .low (Vector.replicate 8 ⟨15, 0, 1⟩), .scroll .copy ⟨7, .left, 2, .up, 11⟩,
      .tile .xor ⟨1, 2, 18, 0, Vector.replicate tileHeight 63⟩]
    (∀ i ∈ l, i.InRange) ∧ ∃ r' told, blank.execute l = .ok (r', told)
      ∧ r'.palette[7].red.toNat = 255 ∧ r'.palette[7].blue.toNat = 17
      ∧ r'.palette[8] = blank.palette[8] ∧ r'.keyColor = some 9 ∧ r'.memoryColor = some 3
      ∧ r'.borderColor = some 4 ∧ r'.backgroundColor = some 7
      ∧ (r'.hOffset, r'.vOffset) = (2, 11) := by
  intro l
  have hl : ∀ i ∈ l, i.InRange := by decide
  obtain ⟨r', told, he, hp, hk, hm, hb, hg, ho⟩ := execute_registers wellFormed_blank hl
  obtain ⟨hr7, -, hb7⟩ := (hp 7 (by decide)).1 ⟨15, 0, 1⟩ rfl
  exact ⟨hl, r', told, he, hr7, hb7, (hp 8 (by decide)).2 rfl, hk, hm, hb, hg, ho⟩

end Raster

end CdGraphics
