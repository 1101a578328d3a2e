import CdGraphics.Proofs.Advance

/-!
# Clocks with nothing loaded

A loaded clock lacks a pointer just where it has finished. A clock with nothing loaded should never
have one, but a reset sets it whether or not there is a stream (`pointer_of_reset_unloaded`), and
it stays set until an advance finds nothing under it (`strayed`). So a clock without a pointer is
idle or finished, and the other way round where nothing is reset before the first load:
`run_pointer_eq_none` says both.
-/

namespace CdGraphics

/-- Whether a clock with nothing loaded has a pointer after an operation, if it had one before. -/
def Op.strays (pointed : Bool) : Op → Bool
  | reset => true
  | step => false
  | fastForward count => pointed && count == 0
  | _ => pointed

namespace Clock

/-- Whether operations on a new clock that load nothing leave it with a pointer. -/
def strayed (ops : List (Op × Moment)) : Bool :=
  ops.foldl (fun pointed x => x.1.strays pointed) false

variable {c d : Clock} {op : Op} {m : Moment} {o : Outcome} {ops : List (Op × Moment)}
  {outcomes : List Outcome}

theorem strayed_concat (ops : List (Op × Moment)) (op : Op) (m : Moment) :
    strayed (ops ++ [(op, m)]) = op.strays (strayed ops) := by
  simp [strayed]

/-- Only a reset gives a clock with nothing loaded a pointer. -/
theorem strayed_of_no_reset (h : ∀ x ∈ ops, x.1 ≠ .reset) : strayed ops = false := by
  induction ops using List.reverseRecOn with
  | nil => rfl
  | append_singleton ops x ih =>
    obtain ⟨op, m⟩ := x
    rw [strayed_concat, ih fun y hy => h y (List.mem_append_left _ hy)]
    have hop : op ≠ .reset := h (op, m) (by simp)
    cases op <;> simp_all [Op.strays]

theorem current?_of_unloaded (h : c.stream = none) : c.current? = none := by
  unfold current?
  rw [h]
  cases c.pointer <;> rfl

/-- With nothing loaded an advance leaves the stream, pointer or not. -/
theorem advanceOne_of_unloaded (h : c.stream = none) :
    c.advanceOne = .ok (c.finish.1, c.finish.2, false) := by
  unfold advanceOne
  rw [current?_of_unloaded h]

theorem advance_of_unloaded (h : c.stream = none) (hp : c.pointer.isSome = true) (count : Nat) :
    advance (count + 1) c = .ok (c.finish.1, c.finish.2, 0) := by
  obtain ⟨p, hp⟩ := Option.isSome_iff_exists.1 hp
  unfold advance
  rw [hp, advanceOne_of_unloaded h]
  refine bind_eq_ok.2 ⟨_, rfl, bind_eq_ok.2 ⟨_, advance_of_no_pointer rfl count, ?_⟩⟩
  simp only [List.append_nil]
  rfl

theorem pointer_heed (o : Outcome) (a : Answer) : (o.heed a).clock.pointer = o.clock.pointer := by
  unfold Outcome.heed
  split <;> rfl

/-- What an operation makes of the pointer where nothing is loaded. -/
theorem pointer_of_unloaded (hc : Coherent c) (h : c.stream = none) (hop : op.loads = false)
    (ho : c.perform op m = .ok o) :
    o.clock.pointer = if op.strays c.pointer.isSome then some 0 else none := by
  have kept : c.pointer = if c.pointer.isSome then some 0 else none := by
    rcases hq : c.pointer with _ | p
    · rfl
    · have hle := hc.pointer_le p hq
      unfold length at hle
      rw [h] at hle
      rw [Nat.le_zero.1 hle]
      rfl
  have hr : c.running = false := by
    by_contra hr
    rw [Bool.not_eq_false] at hr
    have := hc.stream_of_running hr
    rw [h] at this
    cases this
  cases op with
  | load bytes => cases hop
  | reset =>
    cases ho
    rfl
  | step =>
    rw [perform, step, advanceOne_of_unloaded h] at ho
    cases ho
    rfl
  | fastForward count =>
    obtain ⟨⟨d, ns, n⟩, ha, ho⟩ := bind_eq_ok.1 ho
    cases ho
    cases count with
    | zero =>
      cases ha
      rw [Op.strays, beq_self_eq_true, Bool.and_true]
      exact kept
    | succ count =>
      rw [Op.strays, show (count + 1 == 0) = false from rfl, Bool.and_false]
      rcases hq : c.pointer with _ | p
      · rw [advance_of_no_pointer hq] at ha
        cases ha
        exact hq
      · rw [advance_of_unloaded h (by rw [hq]; rfl)] at ha
        cases ha
        rfl
  | play =>
    rw [perform, play, hr, h] at ho
    cases ho
    exact kept
  | stop =>
    cases ho
    exact kept
  | sync ms =>
    cases ho
    exact kept
  | render =>
    rw [perform] at ho
    obtain ⟨o', h', rfl⟩ := map_eq_ok.1 ho
    obtain ⟨f, -, h'⟩ := bind_eq_ok.1 h'
    cases h'
    rw [pointer_heed]
    exact kept
  | tick now =>
    rw [perform, tick_of_not_running hr] at ho
    cases ho
    exact kept

theorem pointer_of_run_unloaded {t : OpcodeTable} {syncOffsetMs : Float}
    (h : (fresh t syncOffsetMs).run ops = .ok (outcomes, c)) :
    c.stream = none → c.pointer = if strayed ops then some 0 else none := by
  refine run_induction (P := fun ops _ c => c.stream = none →
    c.pointer = if strayed ops then some 0 else none) (fun _ => rfl) ?_ h
  intro ops outcomes e op m o hrun ih ho hs
  have hnone : ¬ (e.stream.isSome = true ∨ op.loads = true) := by
    rw [← isSome_stream_perform ho, hs]
    decide
  obtain ⟨he, hop⟩ := not_or.1 hnone
  have hp := ih (Option.not_isSome_iff_eq_none.1 he)
  have hsome : e.pointer.isSome = strayed ops := by
    rw [hp]
    cases strayed ops <;> rfl
  rw [pointer_of_unloaded (run_coherent hrun).1 (Option.not_isSome_iff_eq_none.1 he)
    (Bool.not_eq_true _ ▸ hop) ho, hsome, strayed_concat]

/-- A clock has no pointer just where it has finished, or is idle without a stray pointer, which is
always 0. Where every reset comes after a load, it has none just where it is idle or finished. -/
theorem run_pointer_eq_none {t : OpcodeTable} {syncOffsetMs : Float}
    (h : (fresh t syncOffsetMs).run ops = .ok (outcomes, c)) :
    (c.phase = .idle → c.pointer = if strayed ops then some 0 else none)
      ∧ (c.pointer = none ↔ c.phase = .idle ∧ strayed ops = false ∨ c.phase = .finished)
      ∧ ((∀ before m after, ops = before ++ (.reset, m) :: after → ∃ x ∈ before, x.1.loads = true) →
        (c.pointer = none ↔ c.phase = .idle ∨ c.phase = .finished)) := by
  obtain ⟨hc, -, hloaded⟩ := run_coherent h
  have hidle := fun hi : c.phase = .idle => pointer_of_run_unloaded h (phase_eq_idle_iff.1 hi)
  have hiff : c.pointer = none ↔ c.phase = .idle ∧ strayed ops = false ∨ c.phase = .finished := by
    constructor
    · intro hp
      rcases hs : c.stream with _ | s
      · have hi := phase_eq_idle_iff.2 hs
        refine .inl ⟨hi, ?_⟩
        have hd := hidle hi
        rw [hp] at hd
        cases hd' : strayed ops with
        | false => rfl
        | true =>
          rw [hd'] at hd
          cases hd
      · refine .inr (phase_eq_finished_iff.2 ⟨by rw [hs]; rfl, ?_, hp⟩)
        by_contra hr
        have := hc.pointer_of_running (by simpa using hr)
        rw [hp] at this
        cases this
    · rintro (⟨hi, hd⟩ | hf)
      · rw [hidle hi, hd]
        rfl
      · exact (phase_eq_finished_iff.1 hf).2.2
  refine ⟨hidle, hiff, fun hresets => hiff.trans (or_congr_left ?_)⟩
  refine and_iff_left_of_imp fun hi => strayed_of_no_reset fun x hx hreset => ?_
  -- An idle clock has loaded nothing, so that no reset can have come after a load.
  obtain ⟨before, after, rfl⟩ := List.append_of_mem hx
  obtain ⟨op, m⟩ := x
  cases hreset
  obtain ⟨y, hy, hl⟩ := hresets before m after rfl
  have hnone := phase_eq_idle_iff.1 hi
  have := hloaded.2 ⟨y, List.mem_append_left _ hy, hl⟩
  rw [hnone] at this
  cases this

/-- A new clock that is asked to play, loaded, rewound and stepped off its one instruction. -/
theorem run_pointer_eq_none_finished :
    let bytes := (Instruction.memoryPreset 5 0).packet.bytes.toList
    let ops := [Op.play, .load bytes, .step, .reset, .fastForward 2].map
      fun op => (op, (⟨0.0, .proceed⟩ : Moment))
    ∃ outcomes c, (fresh .standard 0.0).run ops = .ok (outcomes, c) ∧ c.phase = .finished
      ∧ (∀ before m after, ops = before ++ (.reset, m) :: after → ∃ x ∈ before, x.1.loads = true)
      ∧ (c.pointer = none ↔ c.phase = .idle ∨ c.phase = .finished) := by
  intro bytes ops
  have hd : OpcodeTable.standard.decodeStream bytes = ([.memoryPreset 5 0], []) := by
    decide +kernel
  have h : ∃ outcomes c, (fresh .standard 0.0).run ops = .ok (outcomes, c)
      ∧ c.phase = .finished := by
    simp only [ops, List.map_cons, List.map_nil, run, perform, load, bind, Except.bind]
    rw [show (((fresh .standard 0.0).play 0.0).1).table = .standard from rfl, hd]
    exact ⟨_, _, rfl, rfl⟩
  have hresets : ∀ before m after, ops = before ++ (.reset, m) :: after →
      ∃ x ∈ before, x.1.loads = true := by
    intro before m after he
    rcases before with _ | ⟨x, _ | ⟨y, before⟩⟩
    · simp [ops] at he
    · simp [ops] at he
    · obtain ⟨-, rfl, -⟩ : _ ∧ (Op.load bytes, _) = y ∧ _ := by simpa [ops] using he
      exact ⟨_, List.mem_cons_of_mem _ List.mem_cons_self, rfl⟩
  obtain ⟨outcomes, c, h, hf⟩ := h
  exact ⟨outcomes, c, h, hf, hresets, (run_pointer_eq_none h).2.2 hresets⟩

/-- A reset gives a new clock a pointer, though it is idle. -/
theorem pointer_of_reset_unloaded : ¬ ∀ (t : OpcodeTable) (syncOffsetMs : Float)
    (ops : List (Op × Moment)) (outcomes : List Outcome) (c : Clock),
    (fresh t syncOffsetMs).run ops = .ok (outcomes, c) →
      (c.pointer = none ↔ c.phase = .idle ∨ c.phase = .finished) := by
  intro h
  have hreset := h .standard 0.0 [(.reset, ⟨0.0, .proceed⟩)] _ _ rfl
  have := hreset.2 (.inl rfl)
  cases this

end Clock

end CdGraphics
