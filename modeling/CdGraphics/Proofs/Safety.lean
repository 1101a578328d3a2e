import CdGraphics.Proofs.InRange
import CdGraphics.Proofs.Lifecycle
import CdGraphics.Proofs.SafeDrawing
import CdGraphics.Settings

/-!
# Playing is safe

A clock is `Playable` while its table holds only the format's own constructors, its raster is well
formed and every loaded instruction is in its range. Every operation of a playable clock succeeds
and leaves it playable, so with no table that the format's constructors can make, no bytes and no
order of operations is there a fault (`run_safe`).
-/

namespace CdGraphics

open OpcodeTable

namespace Clock

variable {c d : Clock} {ns : List Notice} {n : Nat} {op : Op} {m : Moment} {o : Outcome}
  {ops : List (Op × Moment)}

structure Playable (c : Clock) : Prop where
  table : c.table.StandardOnly
  raster : c.raster.WellFormed
  stream : ∀ s, c.stream = some s → ∀ i ∈ s, i.InRange

theorem Playable.current (h : Playable c) {p : Nat} {i : Instruction}
    (hc : c.current? = some (p, i)) : i.InRange := by
  simp only [current?, bind, pure, Option.bind_eq_some_iff, Option.some.injEq,
    Prod.mk.injEq] at hc
  obtain ⟨q, -, s, hs, j, hj, rfl, rfl⟩ := hc
  exact h.stream s hs j (Array.mem_of_getElem? hj)

theorem Playable.move (hm : Move c ns n d) (h : Playable c) : Playable d := by
  cases hm with
  | execute hc ha =>
    obtain ⟨r, reported, hr, hw⟩ := apply_wellFormed h.raster (h.current hc)
    rw [ha] at hr
    cases hr
    exact ⟨h.table, hw, h.stream⟩
  | _ => exact ⟨h.table, h.raster, h.stream⟩

theorem Playable.reset (h : Playable c) : Playable c.reset :=
  ⟨h.table, h.raster.reset, h.stream⟩

theorem Playable.load (h : Playable c) (bytes : List UInt8) : Playable (c.load bytes).1 := by
  refine Playable.reset ⟨h.table, h.raster, fun s hs i hi => ?_⟩
  cases hs
  exact inRange_decodeStream h.table bytes i (List.mem_toArray.1 hi)

theorem Playable.perform (ho : c.perform op m = .ok o) (h : Playable c) : Playable o.clock := by
  rcases perform_cases ho with ⟨-, hm⟩ | ⟨-, rfl⟩ | ⟨bytes, -, rfl⟩
  · exact hm.keep (fun _ _ _ _ hm hc => Playable.move hm hc) h
  · exact h.reset
  · exact h.load bytes

/-! ## Success -/

theorem Playable.advanceOne_ok (h : Playable c) :
    ∃ d ns b, c.advanceOne = .ok (d, ns, b) ∧ Playable d := by
  unfold advanceOne
  cases hc : c.current? with
  | none => exact ⟨_, _, _, rfl, (Move.finish hc).single.keep (fun _ _ _ _ hm => .move hm) h⟩
  | some x =>
    obtain ⟨r, reported, hr, hw⟩ := apply_wellFormed h.raster (h.current hc)
    refine ⟨{ c with raster := r, pointer := some (x.1 + 1) }, reported.map .diagnostic, true, ?_,
      ⟨h.table, hw, h.stream⟩⟩
    simp only [hr, bind, Except.bind]
    rfl

theorem Playable.advance_ok : ∀ (count : Nat) {c : Clock}, Playable c →
    ∃ d ns n, advance count c = .ok (d, ns, n) ∧ Playable d
  | 0, c, h => ⟨c, [], 0, rfl, h⟩
  | count + 1, c, h => by
    unfold advance
    split
    · exact ⟨c, [], 0, rfl, h⟩
    · obtain ⟨d, ns, b, h1, hd⟩ := h.advanceOne_ok
      obtain ⟨e, ms, n, h2, he⟩ := Playable.advance_ok count hd
      refine ⟨e, ns ++ ms, n + b.toNat, ?_, he⟩
      simp only [h1, h2, bind, Except.bind]
      rfl

theorem Playable.render_ok (h : Playable c) : ∃ o, c.render = .ok o := by
  obtain ⟨f, hf⟩ := h.raster.compose
  refine ⟨⟨c, [], 0, some f⟩, ?_⟩
  rw [render, hf]
  rfl

theorem Playable.tick_ok (h : Playable c) (now : Float) : ∃ o, c.tick now = .ok o := by
  unfold tick
  split
  · rename_i pointer _ _
    simp only
    split_ifs
    · exact ⟨_, rfl⟩
    · have hn : Playable (c.retime now) := ⟨h.table, h.raster, h.stream⟩
      obtain ⟨d, ns, n, h1, hd⟩ := hn.advance_ok (c.targetAt now - pointer)
      obtain ⟨f, hf⟩ := hd.raster.compose
      exact ⟨_, bind_eq_ok.2 ⟨(d, ns, n), h1, bind_eq_ok.2 ⟨f, hf, rfl⟩⟩⟩
  · exact ⟨_, rfl⟩

theorem Playable.perform_ok (h : Playable c) (op : Op) (m : Moment) :
    ∃ o, c.perform op m = .ok o := by
  cases op with
  | load bytes => exact ⟨_, perform_load c bytes m⟩
  | reset | play | stop | sync => exact ⟨_, rfl⟩
  | step =>
    obtain ⟨d, ns, b, h1, -⟩ := h.advanceOne_ok
    refine ⟨⟨d, ns, b.toNat, none⟩, ?_⟩
    rw [Clock.perform, step, h1]
    rfl
  | fastForward count =>
    obtain ⟨d, ns, n, h1, -⟩ := h.advance_ok count
    refine ⟨⟨d, ns, n, none⟩, ?_⟩
    rw [Clock.perform, fastForward, h1]
    rfl
  | render =>
    obtain ⟨o, ho⟩ := h.render_ok
    exact ⟨o.heed m.answer, by rw [Clock.perform, ho]; rfl⟩
  | tick now =>
    obtain ⟨o, ho⟩ := h.tick_ok now
    exact ⟨o.heed m.answer, by rw [Clock.perform, ho]; rfl⟩

theorem Playable.run_ok : ∀ (ops : List (Op × Moment)) {c : Clock}, Playable c →
    ∃ outcomes d, c.run ops = .ok (outcomes, d)
  | [], c, _ => ⟨[], c, rfl⟩
  | (op, m) :: rest, c, h => by
    obtain ⟨o, ho⟩ := h.perform_ok op m
    obtain ⟨outcomes, d, hd⟩ := Playable.run_ok rest (h.perform ho)
    refine ⟨o :: outcomes, d, ?_⟩
    rw [run, ho]
    simp only [bind, Except.bind, hd]
    rfl

theorem playable_fresh {t : OpcodeTable} (ht : t.StandardOnly) (syncOffsetMs : Float) :
    Playable (fresh t syncOffsetMs) :=
  ⟨ht, Raster.wellFormed_blank, nofun⟩

/-- With the format's own constructors, whatever a host asks after any run is performed. -/
theorem run_ok_of_run {t : OpcodeTable} (ht : t.StandardOnly) {syncOffsetMs : Float}
    {outcomes : List Outcome} (h : (fresh t syncOffsetMs).run ops = .ok (outcomes, c))
    (later : List (Op × Moment)) : ∃ rest d, c.run later = .ok (rest, d) := by
  have hc : Playable c := run_keep (Q := fun _ => True) (fun _ _ _ _ _ ho hd => hd.perform ho)
    (fun _ _ => trivial) h (playable_fresh ht _)
  exact hc.run_ok later

/-- A clock's length is that of what was loaded. -/
def Loaded (ops : List (Op × Moment)) (c : Clock) : Prop :=
  c.length = 0 ∨ ∃ bytes m, (.load bytes, m) ∈ ops ∧ c.length = bytes.length / packetSize

theorem length_load (c : Clock) (bytes : List UInt8) :
    (c.load bytes).1.length = bytes.length / packetSize := by
  rw [← c.table.length_decodeStream bytes, load_fst]
  rfl

theorem Loaded.perform (ho : c.perform op m = .ok o) (h : Loaded ops c) :
    Loaded (ops ++ [(op, m)]) o.clock := by
  have keep : o.clock.stream = c.stream → Loaded (ops ++ [(op, m)]) o.clock := by
    intro hs
    unfold Loaded length at *
    rw [hs]
    rcases h with h | ⟨bytes, k, hk, h⟩
    · exact .inl h
    · exact .inr ⟨bytes, k, List.mem_append_left _ hk, h⟩
  rcases perform_cases ho with ⟨-, hm⟩ | ⟨-, rfl⟩ | ⟨bytes, rfl, rfl⟩
  · exact keep hm.stream_eq
  · exact keep rfl
  · exact .inr ⟨bytes, m, List.mem_append_right _ List.mem_cons_self, length_load c bytes⟩

/-- Nothing has left its range: the raster is well formed, and the pointer stays within the stream
and names the start of a packet of a loaded string, or its end. -/
structure Safe (ops : List (Op × Moment)) (c : Clock) : Prop where
  raster : c.raster.WellFormed
  pointer_le : ∀ p, c.pointer = some p → p ≤ c.length
  pointer_mul_le : ∀ p, c.pointer = some p →
    p = 0 ∨ ∃ bytes m, (.load bytes, m) ∈ ops ∧ p * packetSize ≤ bytes.length

theorem Safe.mono (h : Safe ops c) (x : Op × Moment) : Safe (ops ++ [x]) c := by
  refine ⟨h.raster, h.pointer_le, fun p hp => ?_⟩
  rcases h.pointer_mul_le p hp with h0 | ⟨bytes, m, hm, hle⟩
  · exact .inl h0
  · exact .inr ⟨bytes, m, List.mem_append_left _ hm, hle⟩

theorem safe_of_loaded (hp : Playable c) (hc : Coherent c) (hl : Loaded ops c) : Safe ops c := by
  refine ⟨hp.raster, hc.pointer_le, fun p h => ?_⟩
  have hle := hc.pointer_le p h
  rcases hl with h0 | ⟨bytes, m, hm, hb⟩
  · exact .inl (by omega)
  · refine .inr ⟨bytes, m, hm, ?_⟩
    rw [hb] at hle
    exact (Nat.le_div_iff_mul_le (by decide)).1 hle

theorem safe_of_run {outcomes : List Outcome} (h₀ : Playable c) (hc : Coherent c)
    (hl : c.length = 0) (h : c.run ops = .ok (outcomes, d)) : ∀ o ∈ outcomes, Safe ops o.clock := by
  have hP := run_induction (P := fun ops outcomes c => Playable c ∧ Coherent c ∧ Loaded ops c
    ∧ ∀ o ∈ outcomes, Safe ops o.clock) ⟨h₀, hc, .inl hl, by simp⟩ ?_ h
  · exact hP.2.2.2
  · rintro ops outcomes e op m o - ⟨hp, hc, hl, hs⟩ ho
    refine ⟨hp.perform ho, hc.perform ho, hl.perform ho, fun q hq => ?_⟩
    rcases List.mem_append.1 hq with hq | hq
    · exact (hs q hq).mono _
    · rw [List.mem_singleton.1 hq]
      exact safe_of_loaded (hp.perform ho) (hc.perform ho) (hl.perform ho)

end Clock

/-! ## Tables that can be built -/

namespace OpcodeTable

/-- The tables that others are built from. -/
inductive Base : OpcodeTable → Prop
  | empty : Base .empty
  | standard : Base .standard
  | ofSettings (settings : Settings) : Base (.ofSettings settings)

theorem Base.standardOnly {t : OpcodeTable} (h : Base t) : t.StandardOnly := by
  cases h with
  | empty => exact standardOnly_empty
  | standard => exact standardOnly_standard
  | ofSettings settings => exact standardOnly_standard.withVerticalSource settings.verticalSource

theorem Base.build {t : OpcodeTable} (h : Base t) {steps : List Step}
    (hs : ∀ s ∈ steps, s.IsStandard) : ∃ t', t.build steps = .ok t' ∧ t'.StandardOnly :=
  foldlM_keeps (fun _ s hmem ht => StandardOnly.step ht (hs s hmem)) h.standardOnly

end OpcodeTable

namespace Clock

/-- With a table built from the format's own constructors in any number of steps, every list of
operations, over any bytes, is performed to its end without a fault, and after each of them nothing
has left its range. -/
theorem run_safe {base : OpcodeTable} (hb : base.Base) {steps : List Step}
    (hs : ∀ s ∈ steps, s.IsStandard) (syncOffsetMs : Float) (ops : List (Op × Moment)) :
    ∃ t outcomes c, base.build steps = .ok t ∧ (fresh t syncOffsetMs).run ops = .ok (outcomes, c)
      ∧ outcomes.length = ops.length ∧ ∀ o ∈ outcomes, Safe ops o.clock := by
  obtain ⟨t, ht, hstd⟩ := hb.build hs
  have hp : Playable (fresh t syncOffsetMs) := playable_fresh hstd syncOffsetMs
  obtain ⟨outcomes, c, hrun⟩ := hp.run_ok ops
  exact ⟨t, outcomes, c, ht, hrun, length_of_run hrun,
    safe_of_run hp ⟨nofun, nofun, nofun⟩ rfl hrun⟩

/-- A tile's constructor under a code that the format leaves free, and a string with a tail. -/
theorem run_safe_moved :
    let base := OpcodeTable.ofSettings ⟨.horizontalField, 0.0⟩
    let steps := [Step.register 5 (Instruction.ofPayload .verticalField .tileBlock), .erase 6,
      .verticalSource .verticalField]
    let bytes := (9 :: 5 :: List.replicate 22 255) ++ [9, 24]
    let ops := [Op.load bytes, .play, .tick 20.0, .render, .reset, .fastForward 3].map
      fun op => (op, (⟨0.0, .halt⟩ : Moment))
    base.Base ∧ (∀ s ∈ steps, s.IsStandard) ∧
      ∃ t outcomes c, base.build steps = .ok t ∧ (fresh t 0.0).run ops = .ok (outcomes, c)
        ∧ outcomes.length = ops.length ∧ ∀ o ∈ outcomes, Safe ops o.clock := by
  intro base steps bytes ops
  have hb : base.Base := .ofSettings _
  have hs : ∀ s ∈ steps, s.IsStandard := by
    intro s hs
    simp only [steps, List.mem_cons, List.not_mem_nil, or_false] at hs
    rcases hs with rfl | rfl | rfl
    · exact ⟨by decide, 6, rfl⟩
    · trivial
    · trivial
  exact ⟨hb, hs, run_safe hb hs 0.0 ops⟩

end Clock

end CdGraphics
