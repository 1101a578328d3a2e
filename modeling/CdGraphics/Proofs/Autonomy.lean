import CdGraphics.Proofs.Buffered

/-!
# The plane on its own

No instruction reads the palette, the offsets, a colour referred to or the spare plane to find what
to paint, so a list of instructions moves the plane along by itself, and what is told of it depends
on the list alone. A memory preset paints every cell, and so makes up for whatever was painted
before (`drawnAll_memoryPreset`): from there on two pictures are one (`execute_plane_congr`).
-/

namespace CdGraphics

variable {l : List Instruction}

/-- Nothing that was painted before a memory preset is left after it. -/
theorem Plane.drawnAll_memoryPreset (p : Plane) (before after : List Instruction)
    (color repetition : UInt8) :
    p.drawnAll (before ++ .memoryPreset color repetition :: after)
      = (Plane.fill color).drawnAll after := by
  rw [drawnAll_append, drawnAll_cons]
  rfl

namespace Buffered

theorem execute_of_wellFormed {b : Buffered} (hb : b.raster.WellFormed)
    (hl : ∀ i ∈ l, i.InRange) : ∃ c, b.execute l = .ok (c, l.flatMap Instruction.reported)
      ∧ b.raster.execute l = .ok (c.raster, l.flatMap Instruction.reported)
      ∧ c.raster.plane = b.raster.plane.drawnAll l := by
  have h := hb.execute_eq hl
  obtain ⟨spare, hc⟩ := execute_of_raster h
  exact ⟨_, hc, h, Raster.plane_drawnAll l b.raster⟩

/-- Instructions in range drawn on two rasters, whatever these and their spare planes hold, tell the
same, and leave the same plane where the planes were the same. After a memory preset they do so
where the planes were not, too, and nothing of what came before it matters. -/
theorem execute_plane_congr {a b : Buffered} (ha : a.raster.WellFormed) (hb : b.raster.WellFormed)
    (hl : ∀ i ∈ l, i.InRange) :
    ∃ a' b' told, a.execute l = .ok (a', told) ∧ b.execute l = .ok (b', told)
      ∧ a.raster.execute l = .ok (a'.raster, told) ∧ b.raster.execute l = .ok (b'.raster, told)
      ∧ (a.raster.plane = b.raster.plane → a'.raster.plane = b'.raster.plane)
      ∧ ∀ before color repetition after, l = before ++ .memoryPreset color repetition :: after →
        a'.raster.plane = b'.raster.plane
          ∧ ∀ other, (∀ i ∈ other, i.InRange) → ∃ c told',
            b.execute (other ++ .memoryPreset color repetition :: after) = .ok (c, told')
              ∧ c.raster.plane = a'.raster.plane := by
  obtain ⟨a', hae, har, hap⟩ := execute_of_wellFormed ha hl
  obtain ⟨b', hbe, hbr, hbp⟩ := execute_of_wellFormed hb hl
  refine ⟨a', b', _, hae, hbe, har, hbr, fun hp => by rw [hap, hbp, hp], ?_⟩
  rintro before color repetition after rfl
  rw [Plane.drawnAll_memoryPreset] at hap hbp
  refine ⟨by rw [hap, hbp], fun other hother => ?_⟩
  have hafter := (List.forall_mem_append.1 hl).2
  obtain ⟨c, hce, -, hcp⟩ :=
    execute_of_wellFormed hb (List.forall_mem_append.2 ⟨hother, hafter⟩)
  rw [Plane.drawnAll_memoryPreset] at hcp
  exact ⟨c, _, hce, by rw [hcp, hap]⟩

/-- Two rasters that have no part in common, and a list that scrolls both before a memory preset and
after it. -/
theorem execute_plane_congr_preset :
    let a : Buffered := ⟨.blank, .fill 9⟩
    let b : Buffered := ⟨⟨Vector.replicate paletteSize ⟨255, 17, 0⟩, .fill 7, 5, 11, some 1, some 2,
      some 3, some 4⟩, .fill 8⟩
    let before : List Instruction := [.scroll .copy ⟨1, .left, 2, .up, 3⟩]
    let after : List Instruction := [.tile .xor ⟨1, 2, 18, 0, Vector.replicate tileHeight 63⟩,
      .tile .xor ⟨1, 2, 17, 0, Vector.replicate tileHeight 21⟩,
      .scroll .preset ⟨6, .right, 5, .none, 0⟩]
    let l := before ++ .memoryPreset 5 0 :: after
    a.raster.WellFormed ∧ b.raster.WellFormed ∧ (∀ i ∈ l, i.InRange)
      ∧ a.raster.plane.get 0 0 ≠ b.raster.plane.get 0 0
      ∧ (∃ a' b' told, a.execute l = .ok (a', told) ∧ b.execute l = .ok (b', told)
        ∧ a'.raster.plane = b'.raster.plane)
      ∧ ∃ a' b' told, a.execute after = .ok (a', told)
        ∧ execute ⟨b.raster.repainted a.raster.plane, b.spare⟩ after = .ok (b', told)
        ∧ a'.raster.plane = b'.raster.plane := by
  intro a b before after l
  have hfill (c : UInt8) (hc : c.toNat < paletteSize) : (Plane.fill c).Fits := by
    intro x y hx hy
    rwa [Plane.get_fill hx hy]
  have hb : b.raster.WellFormed := by
    refine ⟨hfill 7 (by decide), by decide, by decide, Raster.refFits_some (by decide),
      Raster.refFits_some (by decide), Raster.refFits_some (by decide),
      Raster.refFits_some (by decide), fun i hi => ?_⟩
    simp only [b, Vector.getElem_replicate]
    decide
  have hl : ∀ i ∈ l, i.InRange := by decide
  have hafter : ∀ i ∈ after, i.InRange := by decide
  have hne : a.raster.plane.get 0 0 ≠ b.raster.plane.get 0 0 := by
    simp only [a, b, Raster.blank, Plane.get_fill (x := 0) (y := 0) (by decide) (by decide)]
    decide
  obtain ⟨a', b', told, hae, hbe, -, -, -, hpreset⟩ :=
    execute_plane_congr Raster.wellFormed_blank hb hl (a := a) (b := b)
  have hc : Raster.WellFormed (b.raster.repainted a.raster.plane) :=
    hb.withPlane (hfill 0 (by decide))
  obtain ⟨a'', c, told', hae', hce, -, -, hsame, -⟩ :=
    execute_plane_congr (a := a) (b := ⟨_, b.spare⟩) Raster.wellFormed_blank hc hafter
  exact ⟨Raster.wellFormed_blank, hb, hl, hne,
    ⟨a', b', told, hae, hbe, (hpreset before 5 0 after rfl).1⟩, a'', c, told', hae', hce, hsame rfl⟩

end Buffered

end CdGraphics
