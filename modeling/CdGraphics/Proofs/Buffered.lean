import CdGraphics.Proofs.Outcome

/-!
# Drawing with two planes

A scroll need not make a new plane. It can overwrite a spare one and have the two change places,
the spare plane then holding what was shown before the scroll. `Buffered` draws in that way, and it
comes to what drawing on the raster alone comes to, whatever the spare plane holds (`map_execute`):
each of its cells is overwritten before it is shown.
-/

namespace CdGraphics

/-- A raster, and the plane that its next move overwrites. -/
structure Buffered where
  raster : Raster
  spare : Plane

namespace Buffered

/-- Moves the plane into the spare one and exchanges them. A move by nothing exchanges nothing. -/
def move (b : Buffered) (dx dy : Int) (fill : Plane.Fill) : Buffered :=
  if dx = 0 ∧ dy = 0 then b
  else ⟨b.raster.repainted (b.raster.plane.shiftInto b.spare dx dy fill), b.raster.plane⟩

def shift (b : Buffered) (dx dy : Int) (fill : Plane.Fill) : Except Fault Buffered :=
  match fill with
  | .wrap => .ok (b.move dx dy .wrap)
  | .color color =>
    if Raster.colorFits color then .ok (b.move dx dy (.color color))
    else .error (.colorOutside color)

def scroll (b : Buffered) (mode : ScrollMode) (s : Scroll) : Except Fault Buffered :=
  shift ⟨(b.raster.setBackgroundColor s.color).setOffsets s.hOffset s.vOffset, b.spare⟩
    s.shift.1 s.shift.2 (Raster.scrollFill mode s.color)

/-- Draws an instruction; only a scroll touches the spare plane. -/
def apply (b : Buffered) : Instruction → Except Fault (Buffered × List Diagnostic)
  | .scroll mode s => (b.scroll mode s).map (·, [])
  | i => (i.apply b.raster).map fun (r, told) => (⟨r, b.spare⟩, told)

def execute (b : Buffered) : List Instruction → Except Fault (Buffered × List Diagnostic)
  | [] => .ok (b, [])
  | i :: rest => do
    let (b, told) ← b.apply i
    let (b, later) ← b.execute rest
    return (b, told ++ later)

/-- What is left without the spare plane. -/
def shown (out : Buffered × List Diagnostic) : Raster × List Diagnostic := (out.1.raster, out.2)

theorem raster_move (b : Buffered) (dx dy : Int) (fill : Plane.Fill) :
    (b.move dx dy fill).raster = b.raster.repainted (b.raster.plane.shift dx dy fill) := by
  unfold move Plane.shift
  split_ifs
  · rfl
  · -- The two planes are overwritten cell by cell, whatever stood there.
    refine congrArg b.raster.repainted (Plane.ext_get fun x y hx hy => ?_)
    rw [Plane.get_shiftInto hx hy, Plane.get_shiftInto hx hy]

theorem map_shift (b : Buffered) (dx dy : Int) (fill : Plane.Fill) :
    (b.shift dx dy fill).map raster = b.raster.shift dx dy fill := by
  cases fill with
  | wrap => exact congrArg Except.ok (b.raster_move dx dy .wrap)
  | color c =>
    rw [shift, Raster.shift]
    split_ifs
    · exact congrArg Except.ok (b.raster_move dx dy (.color c))
    · rfl

theorem map_apply (b : Buffered) (i : Instruction) :
    (b.apply i).map shown = i.apply b.raster := by
  cases i with
  | scroll mode s =>
    have h : (b.scroll mode s).map raster = b.raster.scroll mode s := map_shift _ _ _ _
    rw [apply, Instruction.apply, ← h]
    rcases b.scroll mode s with fault | c <;> rfl
  | _ =>
    rw [apply]
    · rcases Instruction.apply _ b.raster with fault | out <;> rfl
    · rintro mode s ⟨⟩

/-- Drawing with two planes shows what drawing on the raster alone shows, or faults alike. -/
theorem map_execute : ∀ (l : List Instruction) (b : Buffered),
    (b.execute l).map shown = b.raster.execute l
  | [], _ => rfl
  | i :: rest, b => by
    have h := b.map_apply i
    rcases hb : b.apply i with fault | ⟨c, told⟩
    · rw [hb] at h
      rw [Raster.execute_cons_of_error h.symm, execute, hb]
      rfl
    · rw [hb] at h
      rw [Raster.execute_cons_of_ok h.symm, execute, hb, ← map_execute rest]
      simp only [bind, Except.bind]
      rcases c.execute rest with fault | out <;> rfl

theorem execute_of_raster {b : Buffered} {l : List Instruction} {r : Raster}
    {told : List Diagnostic} (h : b.raster.execute l = .ok (r, told)) :
    ∃ spare, b.execute l = .ok (⟨r, spare⟩, told) := by
  rw [← map_execute] at h
  obtain ⟨⟨c, told'⟩, hc, hr⟩ := map_eq_ok.1 h
  cases hr
  exact ⟨c.spare, hc⟩

end Buffered

end CdGraphics
