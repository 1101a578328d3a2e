import CdGraphics.Proofs.Drawn

/-!
# The outcome of drawing

Whether an instruction faults, and how, is seen on the plane alone before anything is painted
(`Instruction.fault?`); what it leaves where it does not is known (`Instruction.drawn`). So its
outcome is written down for every raster and every instruction (`apply_eq`), and that of a list by
moving the plane along (`execute_eq`). On a plane whose colours fit, instructions in range never
fault (`Plane.Fits.fault?_eq_none`), whatever the rest of the raster holds.
-/

namespace CdGraphics

namespace Instruction

def colorFault? (color : UInt8) : Option Fault :=
  if Raster.colorFits color then none else some (.colorOutside color)

/-- The fault in drawing an instruction on a plane, if there is one. -/
def fault? (i : Instruction) (p : Plane) : Option Fault :=
  match i with
  | .memoryPreset color _ | .borderPreset color => colorFault? color
  | .tile mode t => if t.onGrid then t.fault? mode p else none
  | .scroll .preset s => colorFault? s.color
  | .loadColors _ colors =>
    (colors.toList.find? fun c => !c.fits).map fun c => .componentsTooWide c.red c.green c.blue
  | _ => none

variable {i : Instruction} {r : Raster} {p : Plane} {fault : Fault}

theorem colorFault?_cases (color : UInt8) :
    (Raster.colorFits color = true ∧ colorFault? color = none)
      ∨ Raster.colorFits color = false ∧ colorFault? color = some (.colorOutside color) := by
  unfold colorFault?
  cases Raster.colorFits color
  · exact .inr ⟨rfl, rfl⟩
  · exact .inl ⟨rfl, rfl⟩

/-- Drawing succeeds just where there is no fault to be seen, and else raises that fault. -/
theorem apply_cases (i : Instruction) (r : Raster) :
    (∃ fault, i.fault? r.plane = some fault ∧ i.apply r = .error fault)
      ∨ i.fault? r.plane = none ∧ ∃ out, i.apply r = .ok out := by
  cases i with
  | noop => exact .inr ⟨rfl, _, rfl⟩
  | setKeyColor color => exact .inr ⟨rfl, _, rfl⟩
  | memoryPreset color repetition =>
    rw [apply, Raster.memoryPreset, Raster.fill, fault?]
    rcases colorFault?_cases color with ⟨hc, hf⟩ | ⟨hc, hf⟩
    · exact .inr ⟨hf, _, by rw [hc]; rfl⟩
    · exact .inl ⟨_, hf, by rw [hc]; rfl⟩
  | borderPreset color =>
    rw [apply, Raster.borderPreset, fault?]
    rcases colorFault?_cases color with ⟨hc, hf⟩ | ⟨hc, hf⟩
    · exact .inr ⟨hf, _, by rw [hc]; rfl⟩
    · exact .inl ⟨_, hf, by rw [hc]; rfl⟩
  | tile mode t =>
    rw [apply, Raster.drawTile, fault?]
    rcases ht : t.onGrid with _ | _
    · exact .inr ⟨rfl, _, rfl⟩
    · rcases t.fault? mode r.plane with _ | fault
      · exact .inr ⟨rfl, _, rfl⟩
      · exact .inl ⟨fault, rfl, rfl⟩
  | scroll mode s =>
    cases mode with
    | copy => exact .inr ⟨rfl, _, rfl⟩
    | preset =>
      rw [apply, Raster.scroll, Raster.scrollFill, Raster.shift, fault?]
      rcases colorFault?_cases s.color with ⟨hc, hf⟩ | ⟨hc, hf⟩
      · exact .inr ⟨hf, _, by rw [hc]; rfl⟩
      · exact .inl ⟨_, hf, by rw [hc]; rfl⟩
  | loadColors half colors =>
    rw [apply, Raster.loadColors, fault?]
    cases colors.toList.find? fun c => !c.fits with
    | none => exact .inr ⟨rfl, _, by rfl⟩
    | some c => exact .inl ⟨_, rfl, by rfl⟩

/-- The outcome of drawing an instruction, on every raster. -/
theorem apply_eq (i : Instruction) (r : Raster) : i.apply r
    = match i.fault? r.plane with
      | some fault => .error fault
      | none => .ok (i.drawn r, i.reported) := by
  rcases apply_cases i r with ⟨fault, hf, ha⟩ | ⟨hf, ⟨r', reported⟩, ha⟩
  · rw [hf, ha]
  · obtain ⟨rfl, rfl⟩ := eq_drawn_of_apply ha
    rw [hf, ha]

/-! ## Planes whose colours fit -/

/-- On a plane whose colours fit an instruction in range does not fault, and the colours of the
plane that it leaves fit: a blank raster with that plane is well formed. -/
theorem fits_drawnOn (hp : p.Fits) (hi : i.InRange) :
    i.fault? p = none ∧ (i.drawnOn p).Fits := by
  have hw : Raster.WellFormed { Raster.blank with plane := p } :=
    Raster.wellFormed_blank.withPlane hp
  obtain ⟨r', reported, ha, hr⟩ := apply_wellFormed hw hi
  obtain ⟨rfl, -⟩ := eq_drawn_of_apply ha
  -- The fault is seen on the plane, so the blank raster faults where any other does.
  rcases apply_cases i { Raster.blank with plane := p } with ⟨fault, -, h⟩ | ⟨hf, -⟩
  · rw [ha] at h
    cases h
  · exact ⟨hf, hr.pixels⟩

end Instruction

/-! ## Lists -/

namespace Plane

/-- The plane that instructions leave one after the other. -/
def drawnAll (p : Plane) (l : List Instruction) : Plane := l.foldl (fun p i => i.drawnOn p) p

/-- The first fault in drawing instructions one after the other, if there is one. -/
def fault? (p : Plane) : List Instruction → Option Fault
  | [] => none
  | i :: rest => (i.fault? p).or ((i.drawnOn p).fault? rest)

theorem drawnAll_cons (p : Plane) (i : Instruction) (l : List Instruction) :
    p.drawnAll (i :: l) = (i.drawnOn p).drawnAll l := rfl

theorem drawnAll_append (p : Plane) (a b : List Instruction) :
    p.drawnAll (a ++ b) = (p.drawnAll a).drawnAll b := List.foldl_append

theorem Fits.fault?_eq_none : ∀ {l : List Instruction} {p : Plane}, p.Fits →
    (∀ i ∈ l, i.InRange) → p.fault? l = none
  | [], _, _, _ => rfl
  | i :: rest, p, hp, hl => by
    obtain ⟨hi, hrest⟩ := List.forall_mem_cons.1 hl
    obtain ⟨hf, hd⟩ := Instruction.fits_drawnOn hp hi
    rw [fault?, hf, Option.none_or, hd.fault?_eq_none hrest]

end Plane

namespace Raster

open Instruction

theorem plane_drawnAll : ∀ (l : List Instruction) (r : Raster),
    (r.drawnAll l).plane = r.plane.drawnAll l
  | [], _ => rfl
  | i :: rest, r => by
    rw [drawnAll_cons, plane_drawnAll rest]
    rfl

theorem execute_cons_of_error {i : Instruction} {r : Raster} {fault : Fault}
    (h : i.apply r = .error fault) (rest : List Instruction) :
    r.execute (i :: rest) = .error fault := by
  rw [execute, h]
  rfl

theorem execute_cons_of_ok {i : Instruction} {r s : Raster} {told : List Diagnostic}
    (h : i.apply r = .ok (s, told)) (rest : List Instruction) :
    r.execute (i :: rest) = (s.execute rest).map fun out => (out.1, told ++ out.2) := by
  rw [execute, h]
  simp only [bind, Except.bind]
  rcases s.execute rest with fault | out <;> rfl

/-- The outcome of drawing instructions in order, on every raster. -/
theorem execute_eq : ∀ (l : List Instruction) (r : Raster), r.execute l
    = match r.plane.fault? l with
      | some fault => .error fault
      | none => .ok (r.drawnAll l, l.flatMap reported)
  | [], _ => rfl
  | i :: rest, r => by
    have h := apply_eq i r
    have hp : (i.drawn r).plane = i.drawnOn r.plane := rfl
    rw [Plane.fault?]
    rcases hi : i.fault? r.plane with _ | fault
    · rw [hi] at h
      rw [execute_cons_of_ok h, execute_eq rest, hp, Option.none_or]
      rcases (i.drawnOn r.plane).fault? rest with _ | fault <;> rfl
    · rw [hi] at h
      rw [execute_cons_of_error h]
      rfl

/-- Where the plane's colours fit, the rest of a raster need not be well formed. -/
theorem execute_of_fits {r : Raster} {l : List Instruction} (hr : r.plane.Fits)
    (hl : ∀ i ∈ l, i.InRange) : r.execute l = .ok (r.drawnAll l, l.flatMap reported) := by
  rw [execute_eq, hr.fault?_eq_none hl]

/-! ## Other planes -/

/-- The raster with another plane. -/
def repainted (r : Raster) (p : Plane) : Raster := { r with plane := p }

theorem drawn_repainted (i : Instruction) (r : Raster) (p : Plane) :
    i.drawn (r.repainted p) = (i.drawn r).repainted (i.drawnOn p) := rfl

/-- Nothing but the plane depends on the plane. -/
theorem drawnAll_repainted : ∀ (l : List Instruction) (r : Raster) (p : Plane),
    (r.repainted p).drawnAll l = (r.drawnAll l).repainted (p.drawnAll l)
  | [], _, _ => rfl
  | i :: rest, r, p => by
    rw [drawnAll_cons, drawnAll_cons, drawn_repainted, drawnAll_repainted rest,
      Plane.drawnAll_cons]

end Raster

end CdGraphics
