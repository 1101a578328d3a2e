import CdGraphics.Proofs.Moves
import Mathlib.Algebra.Order.Ring.Nat

/-!
# A pass over the stream

From a load or a reset on, the raster is what drawing the instructions before the pointer leaves of
the raster that the rewind left, what was reported meanwhile is what drawing them reports, and as
many were executed as the pointer says (`Pass`). Every move keeps that (`Pass.move`), however
steps, batches, ticks, pauses and frames follow each other, so every run ends in the pass of its
last rewind.
-/

namespace CdGraphics

/-- The diagnostic that a notice brings. -/
def Notice.diagnostic? : Notice → Option Diagnostic
  | diagnostic d => some d
  | event _ => none

/-- What an operation reported of the stream. -/
def Outcome.diagnostics (o : Outcome) : List Diagnostic := o.notices.filterMap Notice.diagnostic?

theorem filterMap_diagnostic (ds : List Diagnostic) :
    (ds.map Notice.diagnostic).filterMap Notice.diagnostic? = ds := by
  induction ds with
  | nil => rfl
  | cons d ds ih => simpa [Notice.diagnostic?] using ih

namespace Clock

theorem current?_eq_some {c : Clock} {s : Array Instruction} (hs : c.stream = some s) {p : Nat}
    {i : Instruction} : c.current? = some (p, i) ↔ c.pointer = some p ∧ s[p]? = some i := by
  simp only [current?, hs, bind, pure]
  cases c.pointer with
  | none => simp
  | some q =>
    simp only [Option.bind_some, Option.bind_eq_some_iff, Option.some.injEq, Prod.mk.injEq]
    constructor
    · rintro ⟨i, h, rfl, rfl⟩
      exact ⟨rfl, h⟩
    · rintro ⟨rfl, h⟩
      exact ⟨i, h, rfl, rfl⟩

theorem diagnostics_stop (c : Clock) : c.stop.2.filterMap Notice.diagnostic? = [] := by
  unfold stop
  split_ifs <;> rfl

theorem diagnostics_finish (c : Clock) : c.finish.2.filterMap Notice.diagnostic? = [] := by
  unfold finish
  rw [List.filterMap_append, diagnostics_stop, List.append_nil]
  cases c.pointer <;> rfl

/-- The clock is in a pass over `s` that began on the raster `r₀`, reported `told` and executed
`count` instructions: those before the pointer, or all of them once the stream is left, and drawing
these gives its raster. -/
structure Pass (r₀ : Raster) (s : Array Instruction) (told : List Diagnostic) (count : Nat)
    (c : Clock) : Prop where
  stream : c.stream = some s
  pointer_le : ∀ p, c.pointer = some p → p ≤ s.size
  count_eq : count = c.pointer.getD s.size
  drawn : r₀.execute (s.toList.take (c.pointer.getD s.size)) = .ok (c.raster, told)

variable {r₀ : Raster} {s : Array Instruction} {told : List Diagnostic} {count n : Nat}
  {c d : Clock}

theorem Pass.of_rewound (hs : c.stream = some s) (hp : c.pointer = some 0) :
    Pass c.raster s [] 0 c where
  stream := hs
  pointer_le p h := by
    rw [hp] at h
    cases h
    exact Nat.zero_le _
  count_eq := by
    rw [hp]
    rfl
  drawn := by
    rw [hp]
    rfl

theorem Pass.execute (h : Pass r₀ s told count c) {p : Nat} {i : Instruction}
    (hc : c.current? = some (p, i)) {r : Raster} {reported : List Diagnostic}
    (ha : i.apply c.raster = .ok (r, reported)) :
    Pass r₀ s (told ++ reported) (count + 1)
      { c with raster := r, pointer := some (p + 1) } := by
  obtain ⟨hp, hi⟩ := (current?_eq_some h.stream).1 hc
  obtain ⟨hlt, -⟩ := Array.getElem?_eq_some_iff.1 hi
  refine ⟨h.stream, ?_, ?_, ?_⟩
  · rintro q hq
    cases hq
    exact hlt
  · rw [h.count_eq, hp]
    rfl
  · have hd := h.drawn
    rw [hp] at hd
    have ht : s.toList.take (p + 1) = s.toList.take p ++ [i] := by
      rw [List.take_add_one, Array.getElem?_toList, hi]
      rfl
    simp only [Option.getD_some] at hd ⊢
    rw [ht, Raster.execute_append, hd]
    simp only [bind, Except.bind, pure, Except.pure, Raster.execute_singleton, ha]

theorem Pass.finish (h : Pass r₀ s told count c) (hc : c.current? = none) :
    Pass r₀ s told count c.finish.1 := by
  -- With no instruction under it, the pointer is already unset or at the end.
  have hend : c.pointer.getD s.size = s.size := by
    rcases hp : c.pointer with _ | p
    · rfl
    · have hle := (current?_eq_none_iff hp).1 hc
      rw [length_of_stream h.stream] at hle
      exact Nat.le_antisymm (h.pointer_le p hp) hle
  refine ⟨h.stream, ?_, ?_, ?_⟩
  · rintro p hp
    cases hp
  · rw [h.count_eq, hend]
    rfl
  · have hd := h.drawn
    rwa [hend] at hd

/-- Every move keeps the pass and adds what it reports and executes. -/
theorem Pass.move {ns : List Notice} (hm : Move c ns n d) (h : Pass r₀ s told count c) :
    Pass r₀ s (told ++ ns.filterMap Notice.diagnostic?) (count + n) d := by
  cases hm with
  | note positionMs lastTickMs anchor =>
    rw [List.filterMap_nil, List.append_nil]
    exact ⟨h.stream, h.pointer_le, h.count_eq, h.drawn⟩
  | ignore =>
    rw [show [Notice.event _].filterMap Notice.diagnostic? = [] from rfl, List.append_nil]
    exact h
  | start now hr hl hp =>
    rw [show [Notice.event _].filterMap Notice.diagnostic? = [] from rfl, List.append_nil]
    exact ⟨h.stream, h.pointer_le, h.count_eq, h.drawn⟩
  | stop =>
    rw [diagnostics_stop, List.append_nil]
    exact ⟨h.stream, h.pointer_le, h.count_eq, h.drawn⟩
  | execute hc ha =>
    rw [filterMap_diagnostic]
    exact h.execute hc ha
  | finish hc =>
    rw [diagnostics_finish, List.append_nil]
    exact h.finish hc

theorem Pass.moves {ns : List Notice} (hm : Moves c ns n d) (h : Pass r₀ s told count c) :
    Pass r₀ s (told ++ ns.filterMap Notice.diagnostic?) (count + n) d := by
  induction hm with
  | refl => simpa using h
  | tail _ hm ih =>
    rw [List.filterMap_append, ← List.append_assoc, ← Nat.add_assoc]
    exact ih.move hm

/-- A run without a rewind stays in the pass and adds what its operations report and execute. -/
theorem Pass.run : ∀ {ops : List (Op × Moment)} {outcomes : List Outcome} {c : Clock}
    {told : List Diagnostic} {count : Nat}, (∀ x ∈ ops, x.1.rewinds = false) →
      c.run ops = .ok (outcomes, d) → Pass r₀ s told count c →
        Pass r₀ s (told ++ outcomes.flatMap Outcome.diagnostics)
          (count + (outcomes.map Outcome.executed).sum) d
  | [], outcomes, c, told, count, _, hrun, h => by
    cases hrun
    simpa using h
  | (op, m) :: rest, outcomes, c, told, count, hops, hrun, h => by
    obtain ⟨o, later, ho, hrest, rfl⟩ := run_cons_eq_ok.1 hrun
    obtain ⟨hop, hops⟩ := List.forall_mem_cons.1 hops
    rw [List.flatMap_cons, List.map_cons, List.sum_cons, ← List.append_assoc, ← Nat.add_assoc]
    exact Pass.run hops hrest (h.moves (moves_of_perform hop ho))

/-- Two ways on in a pass that lead to one place drew the same raster, reported the same and
executed as much. -/
theorem Pass.eq_of_pointer_eq {more more' : List Diagnostic} {k k' : Nat} {e : Clock}
    (h : Pass r₀ s (told ++ more) (count + k) d) (h' : Pass r₀ s (told ++ more') (count + k') e)
    (hp : d.pointer = e.pointer) : d.raster = e.raster ∧ more = more' ∧ k = k' := by
  have hd := h.drawn
  have hk := h.count_eq
  rw [hp, h'.drawn, Except.ok.injEq, Prod.mk.injEq, List.append_cancel_left_eq] at hd
  rw [hp, ← h'.count_eq] at hk
  exact ⟨hd.1.symm, hd.2.symm, Nat.add_left_cancel hk⟩

theorem pointer_of_rewinds {op : Op} {m : Moment} {o : Outcome} (hop : op.rewinds = true)
    (h : c.perform op m = .ok o) : o.clock.pointer = some 0 := by
  rcases perform_cases h with ⟨hop', -⟩ | ⟨-, rfl⟩ | ⟨bytes, -, rfl⟩
  · rw [hop] at hop'
    cases hop'
  · rfl
  · rfl

/-- The run of `ops` from `c₀`, which led to `c`, is cut at its last rewind, and has been in one
pass over `s` since. -/
def LastPass (c₀ : Clock) (s : Array Instruction) (ops : List (Op × Moment))
    (outcomes : List Outcome) (c : Clock) : Prop :=
  ∃ before op after first rest start,
    ops = before ++ op :: after ∧ op.1.rewinds = true ∧ (∀ x ∈ after, x.1.rewinds = false)
      ∧ c₀.run (before ++ [op]) = .ok (first, start) ∧ start.run after = .ok (rest, c)
      ∧ outcomes = first ++ rest
      ∧ Pass start.raster s (rest.flatMap Outcome.diagnostics) (rest.map Outcome.executed).sum c

variable {c₀ : Clock} {ops : List (Op × Moment)} {outcomes : List Outcome} {op : Op} {m : Moment}
  {o : Outcome}

theorem LastPass.of_rewinds (hrun : c₀.run ops = .ok (outcomes, c)) (hop : op.rewinds = true)
    (ho : c.perform op m = .ok o) (hs : o.clock.stream = some s) :
    LastPass c₀ s (ops ++ [(op, m)]) (outcomes ++ [o]) o.clock := by
  refine ⟨ops, (op, m), [], outcomes ++ [o], [], o.clock, rfl, hop, by simp, ?_, rfl, by simp, ?_⟩
  · exact run_concat_eq_ok.2 ⟨outcomes, c, o, hrun, ho, rfl, rfl⟩
  · exact Pass.of_rewound hs (pointer_of_rewinds hop ho)

theorem LastPass.extend (h : LastPass c₀ s ops outcomes c) (hop : op.rewinds = false)
    (ho : c.perform op m = .ok o) :
    LastPass c₀ s (ops ++ [(op, m)]) (outcomes ++ [o]) o.clock := by
  obtain ⟨before, x, after, first, rest, start, rfl, h2, h3, h4, h5, rfl, hp⟩ := h
  refine ⟨before, x, after ++ [(op, m)], first, rest ++ [o], start, by simp, h2, ?_, h4, ?_,
    by simp, ?_⟩
  · intro y hy
    rcases List.mem_append.1 hy with hy | hy
    · exact h3 y hy
    · rw [List.mem_singleton.1 hy]
      exact hop
  · exact run_concat_eq_ok.2 ⟨rest, c, o, h5, ho, rfl, rfl⟩
  · rw [List.flatMap_append, List.flatMap_singleton, List.map_append, List.sum_append,
      List.map_singleton, List.sum_singleton]
    exact hp.moves (moves_of_perform hop ho)

theorem lastPass_of_run (h₀ : c₀.stream = none) (h : c₀.run ops = .ok (outcomes, c)) :
    ∀ s, c.stream = some s → LastPass c₀ s ops outcomes c := by
  refine run_induction (P := fun ops outcomes c => ∀ s, c.stream = some s →
    LastPass c₀ s ops outcomes c) ?_ ?_ h
  · intro s hs
    rw [h₀] at hs
    cases hs
  · intro ops outcomes e op m o hrun ih ho s hs
    rcases hop : op.rewinds with _ | _
    · rw [(moves_of_perform hop ho).stream_eq] at hs
      exact (ih s hs).extend hop ho
    · exact LastPass.of_rewinds hrun hop ho hs

/-- A run that leaves a stream loaded has a last load or reset. From there on the raster is what
drawing, in order, exactly the instructions before the pointer makes of the raster that it left, or
all of them once the stream has run out; these drawings reported what was reported since, and as
many executions were counted. -/
theorem run_replays {t : OpcodeTable} {syncOffsetMs : Float}
    (h : (fresh t syncOffsetMs).run ops = .ok (outcomes, c)) (hs : c.stream = some s) :
    ∃ before op after first rest start,
      ops = before ++ op :: after ∧ op.1.rewinds = true ∧ (∀ x ∈ after, x.1.rewinds = false)
        ∧ (fresh t syncOffsetMs).run (before ++ [op]) = .ok (first, start)
        ∧ start.run after = .ok (rest, c) ∧ outcomes = first ++ rest
        ∧ (∀ p, c.pointer = some p → p ≤ s.size)
        ∧ (rest.map Outcome.executed).sum = c.pointer.getD s.size
        ∧ start.raster.execute (s.toList.take (c.pointer.getD s.size))
          = .ok (c.raster, rest.flatMap Outcome.diagnostics) := by
  obtain ⟨before, op, after, first, rest, start, h1, h2, h3, h4, h5, h6, hp⟩ :=
    lastPass_of_run rfl h s hs
  exact ⟨before, op, after, first, rest, start, h1, h2, h3, h4, h5, h6, hp.pointer_le, hp.count_eq,
    hp.drawn⟩

/-- Two instructions of which the second is reported and not drawn, stepped through again from a
reset in the middle. -/
theorem run_replays_rewound :
    let s : Array Instruction :=
      #[.memoryPreset 5 0, .tile .xor ⟨1, 2, 18, 3, Vector.replicate tileHeight 63⟩]
    let bytes := s.toList.flatMap fun i => i.packet.bytes.toList
    let ops := [Op.load bytes, .step, .reset, .fastForward 1, .step, .step].map
      fun op => (op, (⟨0.0, .proceed⟩ : Moment))
    ∃ outcomes c, (fresh .standard 0.0).run ops = .ok (outcomes, c) ∧ c.stream = some s
      ∧ c.pointer = none ∧ ∃ before op after first rest start,
        ops = before ++ op :: after ∧ op.1.rewinds = true ∧ (∀ x ∈ after, x.1.rewinds = false)
          ∧ (fresh .standard 0.0).run (before ++ [op]) = .ok (first, start)
          ∧ start.run after = .ok (rest, c) ∧ outcomes = first ++ rest
          ∧ (∀ p, c.pointer = some p → p ≤ s.size)
          ∧ (rest.map Outcome.executed).sum = c.pointer.getD s.size
          ∧ start.raster.execute (s.toList.take (c.pointer.getD s.size))
            = .ok (c.raster, rest.flatMap Outcome.diagnostics) := by
  intro s bytes ops
  have hd : OpcodeTable.standard.decodeStream bytes = (s.toList, []) := by decide +kernel
  have h : ∃ outcomes c, (fresh .standard 0.0).run ops = .ok (outcomes, c) ∧ c.stream = some s
      ∧ c.pointer = none := by
    simp only [ops, List.map_cons, List.map_nil, run, perform, load]
    rw [show (fresh .standard 0.0).table = .standard from rfl, hd]
    exact ⟨_, _, rfl, rfl, rfl⟩
  obtain ⟨outcomes, c, h, hs, hp⟩ := h
  exact ⟨outcomes, c, h, hs, hp, run_replays h hs⟩

end Clock

end CdGraphics
