import CdGraphics.Proofs.RoundTrip
import CdGraphics.Proofs.Outcome

/-!
# Both fields of the vertical command

A table that reads the vertical command from the horizontal field decodes to the instructions of
one that reads it from its own, but that the vertical move of a scroll is the one that its
horizontal command asks for (`Instruction.rematched`). Nothing that an instruction leaves depends on
that move but the plane, and nothing but the plane depends on the plane (`drawnAll_repainted`): so
under both tables all the rest of the raster, and all that is told, is the same.
-/

namespace CdGraphics

namespace Instruction

/-- The instruction with the vertical move that the horizontal command of a scroll asks for. -/
def rematched : Instruction → Instruction
  | .scroll mode s => .scroll mode { s with vertical := .matching s.horizontal }
  | i => i

theorem rematched_of_matched {i : Instruction} (h : i.Matched) : i.rematched = i := by
  cases i with
  | scroll mode s => rw [rematched, ← show s.vertical = .matching s.horizontal from h]
  | _ => rfl

theorem reported_rematched (i : Instruction) : i.rematched.reported = i.reported := by
  cases i <;> rfl

theorem drawn_rematched (i : Instruction) (r : Raster) :
    i.rematched.drawn r = (i.drawn r).repainted (i.rematched.drawnOn r.plane) := by
  cases i with
  | scroll mode s =>
    simp only [drawn, Raster.repainted, rematched]
    rfl
  | _ => simp only [drawn, Raster.repainted, rematched]

theorem ofPayload_horizontalField (op : Opcode) (p : Payload) :
    ofPayload .horizontalField op p = (ofPayload .verticalField op p).rematched := by
  cases op with
  | scrollPreset | scrollCopy =>
    simp only [ofPayload, Scroll.ofPayload, rematched, VerticalMove.ofCommand_eq_matching]
  | _ => rfl

end Instruction

open Instruction

/-! ## Decoding -/

namespace OpcodeTable

variable {s u : Settings}

theorem get?_horizontalField (hs : s.verticalSource = .verticalField)
    (hu : u.verticalSource = .horizontalField) (code : UInt8) : (ofSettings u).get? code
      = ((ofSettings s).get? code).map fun build p => (build p).rematched := by
  by_cases h : ∃ op : Opcode, op.code = code
  · obtain ⟨op, rfl⟩ := h
    rw [get?_ofSettings, get?_ofSettings, hs, hu, Option.map_some]
    exact congrArg some (funext fun p => ofPayload_horizontalField op p)
  · -- No table of settings knows a code that is no instruction's.
    have hnone (w : Settings) : (ofSettings w).get? code = none := by
      refine Option.eq_none_iff_forall_ne_some.2 fun build hb => ?_
      obtain ⟨op, hc, -⟩ := exists_of_get?_ofSettings hb
      exact h ⟨op, hc⟩
    rw [hnone, hnone]
    rfl

theorem decode_horizontalField (hs : s.verticalSource = .verticalField)
    (hu : u.verticalSource = .horizontalField) (p : Packet) (index : Option Nat) :
    (ofSettings u).decode p index
      = (((ofSettings s).decode p index).1.rematched, ((ofSettings s).decode p index).2) := by
  unfold decode
  rw [get?_horizontalField hs hu]
  split_ifs
  · cases (ofSettings s).get? p.opcode <;> rfl
  · rfl

theorem decodeStream_rematched (hs : s.verticalSource = .verticalField)
    (hu : u.verticalSource = .horizontalField) (bytes : List UInt8) :
    (ofSettings u).decodeStream bytes = (((ofSettings s).decodeStream bytes).1.map rematched,
      ((ofSettings s).decodeStream bytes).2) := by
  have h : ((packets bytes).mapIdx fun index p => (ofSettings u).decode p (some index))
      = ((packets bytes).mapIdx fun index p => (ofSettings s).decode p (some index)).map
        fun decoded => (decoded.1.rematched, decoded.2) := by
    refine List.ext_getElem? fun k => ?_
    simp only [List.getElem?_map, List.getElem?_mapIdx, Option.map_map,
      decode_horizontalField hs hu]
    rfl
  simp only [decodeStream, h, List.map_map, List.flatMap_map]
  rfl

end OpcodeTable

/-! ## Drawing -/

theorem reported_map_rematched (l : List Instruction) :
    (l.map rematched).flatMap reported = l.flatMap reported := by
  rw [List.flatMap_map]
  exact List.flatMap_congr fun i _ => reported_rematched i

theorem Raster.drawnAll_map_rematched : ∀ (l : List Instruction) (r : Raster),
    r.drawnAll (l.map rematched)
      = (r.drawnAll l).repainted (r.plane.drawnAll (l.map rematched))
  | [], _ => rfl
  | i :: rest, r => by
    rw [List.map_cons, drawnAll_cons, drawn_rematched, drawnAll_repainted,
      drawnAll_map_rematched rest, drawnAll_cons]
    rfl

theorem map_rematched_of_matched {l : List Instruction} (h : ∀ i ∈ l, i.Matched) :
    l.map rematched = l := by
  calc l.map rematched
      = l.map id := List.map_congr_left fun i hi => rematched_of_matched (h i hi)
    _ = l := List.map_id l

namespace OpcodeTable

/-- Read from the horizontal field, a stream tells the same and holds the same instructions, but
that a scroll's vertical move is none, down or up as its horizontal one is none, to the right or to
the left. Drawn as far on one raster, both leave the same but for the plane, and tell the same; and
where all moves match already, the plane and every fault as well. -/
theorem decodeStream_horizontalField (bytes : List UInt8) (vOffsetMs hOffsetMs : Float) (n : Nat)
    (r : Raster) :
    let v := (ofSettings ⟨.verticalField, vOffsetMs⟩).decodeStream bytes
    let h := (ofSettings ⟨.horizontalField, hOffsetMs⟩).decodeStream bytes
    h.2 = v.2 ∧ h.1 = v.1.map rematched
      ∧ (r.plane.Fits → ∃ a b told, r.execute (v.1.take n) = .ok (a, told)
        ∧ r.execute (h.1.take n) = .ok (b, told))
      ∧ (∀ a b told told', r.execute (v.1.take n) = .ok (a, told) →
        r.execute (h.1.take n) = .ok (b, told') → told' = told ∧ b = a.repainted b.plane)
      ∧ ((∀ i ∈ v.1.take n, i.Matched) → r.execute (h.1.take n) = r.execute (v.1.take n)) := by
  intro v h
  have hh : h = (v.1.map rematched, v.2) := decodeStream_rematched rfl rfl bytes
  have htake : h.1.take n = (v.1.take n).map rematched := by
    rw [hh, List.map_take]
  have htold : (h.1.take n).flatMap reported = (v.1.take n).flatMap reported := by
    rw [htake, reported_map_rematched]
  have hrange (s : Settings) : ∀ i ∈ ((ofSettings s).decodeStream bytes).1.take n, i.InRange :=
    fun i hi => inRange_decodeStream (standardOnly_standard.withVerticalSource _) bytes i
      (List.mem_of_mem_take hi)
  refine ⟨by rw [hh], by rw [hh], ?_, ?_, ?_⟩
  · intro hr
    have hb := Raster.execute_of_fits (l := h.1.take n) hr (hrange _)
    rw [htold] at hb
    exact ⟨_, _, _, Raster.execute_of_fits hr (hrange _), hb⟩
  · intro a b told told' hv hb
    obtain ⟨rfl, rfl⟩ := Raster.eq_drawnAll_of_execute hv
    obtain ⟨rfl, rfl⟩ := Raster.eq_drawnAll_of_execute hb
    refine ⟨htold, ?_⟩
    rw [htake, Raster.drawnAll_map_rematched]
    rfl
  · intro hm
    rw [htake, map_rematched_of_matched hm]

/-- Two scrolls to the right, the first down and the second up by its own field: the first is the
same for both tables, and the second goes down by the other. -/
theorem decodeStream_horizontalField_scrolls :
    let packet (field : UInt8) : List UInt8 := [9, 24, 0, 0, 0, 16, field] ++ List.replicate 17 0
    let bytes := packet 20 ++ packet 36
    let v := (ofSettings ⟨.verticalField, 0.0⟩).decodeStream bytes
    let h := (ofSettings ⟨.horizontalField, 0.0⟩).decodeStream bytes
    v.1 = [.scroll .copy ⟨0, .right, 0, .down, 4⟩, .scroll .copy ⟨0, .right, 0, .up, 4⟩]
      ∧ h.1 = [.scroll .copy ⟨0, .right, 0, .down, 4⟩, .scroll .copy ⟨0, .right, 0, .down, 4⟩]
      ∧ Raster.blank.plane.Fits ∧ (∀ i ∈ v.1.take 1, i.Matched)
      ∧ Raster.blank.execute (h.1.take 1) = Raster.blank.execute (v.1.take 1)
      ∧ ∃ a b told, Raster.blank.execute (v.1.take 2) = .ok (a, told)
        ∧ Raster.blank.execute (h.1.take 2) = .ok (b, told) ∧ b = a.repainted b.plane := by
  intro packet bytes v h
  have hv : v.1
      = [.scroll .copy ⟨0, .right, 0, .down, 4⟩, .scroll .copy ⟨0, .right, 0, .up, 4⟩] := by
    decide +kernel
  have hfits : Raster.blank.plane.Fits := Raster.wellFormed_blank.pixels
  have hm : ∀ i ∈ v.1.take 1, i.Matched := by
    intro i hi
    rw [hv] at hi
    obtain rfl := List.mem_singleton.1 hi
    rfl
  obtain ⟨-, hh, -, -, hfirst⟩ := decodeStream_horizontalField bytes 0.0 0.0 1 .blank
  obtain ⟨-, -, hok, hsame, -⟩ := decodeStream_horizontalField bytes 0.0 0.0 2 .blank
  obtain ⟨a, b, told, ha, hb⟩ := hok hfits
  refine ⟨hv, ?_, hfits, hm, hfirst hm, a, b, told, ha, hb, (hsame a b told told ha hb).2⟩
  calc h.1 = v.1.map rematched := hh
    _ = _ := by
      rw [hv]
      rfl

end OpcodeTable

end CdGraphics
