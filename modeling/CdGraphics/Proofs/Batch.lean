import CdGraphics.Proofs.Ticking

/-!
# Batches of steps

A batch advances while there is a pointer, so a batch after a batch is one of both counts
(`run_batches`), and a batch of one is a step, but for a clock that has no pointer: a step stops it,
which a batch does not. Where a step took the pointer away the clock has been stopped already
(`Settled`), so from a place in the stream on a batch is as many steps (`run_steps`). No more of
them are taken than lead past the end (`fastForward_min`, `laps_of_placed`). All of this holds of
every clock that a run leads to, since its pointer lies within the stream and without one it has
stopped (`fastForward_laws_of_run`).
-/

namespace CdGraphics

namespace Outcome

/-- Two outcomes in a row as one. -/
def andThen (o q : Outcome) : Outcome :=
  ⟨q.clock, o.notices ++ q.notices, o.executed + q.executed, q.frame.or o.frame⟩

/-- All outcomes of a run as one: what they told and executed, the last frame, and the clock that
the run ends in. -/
def joined (r : List Outcome × Clock) : Outcome where
  clock := r.2
  notices := r.1.flatMap notices
  executed := (r.1.map executed).sum
  frame := (r.1.filterMap frame).getLast?

theorem joined_cons (o : Outcome) (outcomes : List Outcome) (c : Clock) :
    joined (o :: outcomes, c) = o.andThen (joined (outcomes, c)) := by
  have hframe : ((o :: outcomes).filterMap frame).getLast?
      = (outcomes.filterMap frame).getLast?.or o.frame := by
    rw [List.filterMap_cons]
    cases o.frame with
    | none => rw [Option.or_none]
    | some picture =>
      rw [List.getLast?_cons]
      cases (outcomes.filterMap frame).getLast? <;> rfl
  simp only [joined, andThen, hframe, List.flatMap_cons, List.map_cons, List.sum_cons]

end Outcome

namespace Clock

variable {c d : Clock} {ns : List Notice} {n p : Nat} {op : Op} {m : Moment} {o : Outcome}
  {ops : List (Op × Moment)} {outcomes : List Outcome}

theorem joined_run_cons (c : Clock) (op : Op) (m : Moment) (rest : List (Op × Moment)) :
    (c.run ((op, m) :: rest)).map .joined = do
      let o ← c.perform op m
      let q ← (o.clock.run rest).map .joined
      return o.andThen q := by
  rw [run]
  rcases c.perform op m with fault | o
  · rfl
  · simp only [bind, Except.bind, pure, Except.pure]
    rcases o.clock.run rest with fault | ⟨outcomes, d⟩
    · rfl
    · simp only [Except.map, Outcome.joined_cons]

/-! ## Batches after batches -/

/-- An advance after an advance is one of both counts. -/
theorem advance_add (n : Nat) : ∀ (m : Nat) (c : Clock), advance (m + n) c = do
    let (d, ns, k) ← advance m c
    let (e, later, l) ← advance n d
    return (e, ns ++ later, k + l)
  | 0, c => by
    rw [Nat.zero_add]
    simp only [advance, bind, Except.bind, pure, Except.pure, List.nil_append, Nat.zero_add]
    rcases advance n c with fault | r <;> rfl
  | m + 1, c => by
    rw [Nat.add_right_comm]
    rcases hp : c.pointer with _ | p
    · simp [advance_of_no_pointer hp, bind, Except.bind, pure, Except.pure]
    · rcases h : c.advanceOne with fault | ⟨d, ns, b⟩
      · rw [advance_of_error hp h, advance_of_error hp h]
        rfl
      · rw [advance_of_ok hp h, advance_of_ok hp h, advance_add n m d]
        simp only [bind, Except.bind, pure, Except.pure]
        rcases advance m d with fault | ⟨e, ms, k⟩
        · rfl
        · simp only
          rcases advance n e with fault | ⟨f, later, l⟩
          · rfl
          · simp only [List.append_assoc, Nat.add_right_comm k l]

theorem fastForward_add (m n : Nat) (c : Clock) : c.fastForward (m + n) = do
    let o ← c.fastForward m
    let q ← o.clock.fastForward n
    return o.andThen q := by
  simp only [fastForward, advance_add, bind, Except.bind, pure, Except.pure]
  rcases advance m c with fault | ⟨d, ns, k⟩
  · rfl
  · simp only
    rcases advance n d with fault | r <;> rfl

/-- Batches in a row are one batch of all their counts. -/
theorem run_batches : ∀ (batches : List (Nat × Moment)) (c : Clock),
    (c.run (batches.map fun b => (.fastForward b.1, b.2))).map .joined
      = c.fastForward (batches.map Prod.fst).sum
  | [], c => rfl
  | (n, m) :: rest, c => by
    simp only [List.map_cons, List.sum_cons, joined_run_cons, fastForward_add, run_batches rest]
    rfl

/-! ## Batches and steps -/

/-- Without a pointer the clock has stopped and holds no anchor, so a step has nothing to drop. -/
def Settled (c : Clock) : Prop := c.pointer = none → c.running = false ∧ c.anchor = none

theorem settled_of_pointer (hp : c.pointer = some p) : Settled c := by
  intro hnone
  rw [hp] at hnone
  cases hnone

theorem settled_of_advanceOne {b : Bool} (h : c.advanceOne = .ok (d, ns, b)) : Settled d := by
  rcases advanceOne_cases h with ⟨p, i, raster, -, -, rfl⟩ | ⟨-, -, rfl⟩
  · exact settled_of_pointer rfl
  · rw [finish_fst]
    exact fun _ => ⟨rfl, rfl⟩

theorem finish_of_no_pointer (hp : c.pointer = none) (hr : c.running = false) :
    c.finish = ({ c with anchor := none }, []) := by
  cases c
  cases hp
  cases hr
  rfl

theorem step_of_no_pointer (hp : c.pointer = none) (hr : c.running = false) :
    c.step = .ok ⟨{ c with anchor := none }, [], 0, none⟩ := by
  have hcurrent : c.current? = none := by simp [current?, hp]
  simp only [step, advanceOne_of_no_current hcurrent, finish_of_no_pointer hp hr]
  rfl

theorem fastForward_of_no_pointer (hp : c.pointer = none) (n : Nat) :
    c.fastForward n = .ok ⟨c, [], 0, none⟩ := by
  rw [fastForward, advance_of_no_pointer hp]
  rfl

/-- A step is a batch of one. -/
theorem Settled.step_eq (h : Settled c) : c.step = c.fastForward 1 := by
  rcases hp : c.pointer with _ | p
  · obtain ⟨hr, ha⟩ := h hp
    rw [step_of_no_pointer hp hr, fastForward_of_no_pointer hp, ← ha]
  · rw [step, fastForward]
    rcases ho : c.advanceOne with fault | ⟨d, ns, b⟩
    · rw [advance_of_error hp ho]
      rfl
    · rw [advance_of_ok hp ho]
      simp [advance, bind, Except.bind, pure, Except.pure]

theorem Settled.step (h : c.step = .ok o) : Settled o.clock := by
  obtain ⟨r, hr, h⟩ := bind_eq_ok.1 h
  cases h
  exact settled_of_advanceOne hr

/-- Steps in a row are a batch of as many. -/
theorem run_steps : ∀ (moments : List Moment) {c : Clock}, Settled c →
    (c.run (moments.map fun m => (.step, m))).map .joined = c.fastForward moments.length
  | [], c, _ => rfl
  | m :: rest, c, h => by
    rw [List.map_cons, joined_run_cons, List.length_cons, Nat.add_comm, fastForward_add,
      ← h.step_eq, perform]
    rcases ho : c.step with fault | o
    · rfl
    · exact congrArg (· >>= fun q => pure (o.andThen q)) (run_steps rest (.step ho))

/-! ## Past the end -/

/-- A batch does no more than lead past the end. -/
theorem fastForward_min (hp : c.pointer = some p) (hle : p ≤ c.length) (n : Nat) :
    c.fastForward (min n (c.length - p + 1)) = c.fastForward n := by
  rcases Nat.le_total n (c.length - p + 1) with hn | hn
  · rw [Nat.min_eq_left hn]
  · obtain ⟨more, rfl⟩ := Nat.exists_eq_add_of_le hn
    rw [Nat.min_eq_right hn, fastForward_add (c.length - p + 1) more]
    rcases ho : c.fastForward (c.length - p + 1) with fault | o
    · rfl
    · obtain ⟨⟨d, ns, k⟩, h, ho⟩ := bind_eq_ok.1 ho
      cases ho
      have hpast : ¬ p + (c.length - p + 1) ≤ c.length := by omega
      have hd : d.pointer = none := by rw [(pointer_of_advance hp hle h).1, if_neg hpast]
      simp only [bind, Except.bind, fastForward_of_no_pointer hd, Outcome.andThen,
        List.append_nil, Nat.add_zero, Option.or_none]
      rfl

/-- How often the loop of an advance asks for the instruction under the pointer. -/
def laps : (count : Nat) → Clock → Nat
  | 0, _ => 0
  | count + 1, c =>
    match c.pointer with
    | none => 0
    | some _ =>
      match c.advanceOne with
      | .error _ => 1
      | .ok (c, _, _) => laps count c + 1

theorem laps_of_no_pointer (hp : c.pointer = none) : ∀ count : Nat, laps count c = 0
  | 0 => rfl
  | count + 1 => by rw [laps, hp]

theorem laps_of_error {fault : Fault} (hp : c.pointer = some p) (h : c.advanceOne = .error fault)
    (count : Nat) : laps (count + 1) c = 1 := by
  rw [laps, hp, h]

theorem laps_of_ok {b : Bool} (hp : c.pointer = some p) (h : c.advanceOne = .ok (d, ns, b))
    (count : Nat) : laps (count + 1) c = laps count d + 1 := by
  rw [laps, hp, h]

/-- The laps of an advance do all that it does. -/
theorem advance_laps : ∀ (count : Nat) (c : Clock), advance (laps count c) c = advance count c
  | 0, c => rfl
  | count + 1, c => by
    rcases hp : c.pointer with _ | p
    · rw [advance_of_no_pointer hp, advance_of_no_pointer hp]
    · rcases h : c.advanceOne with fault | ⟨d, ns, b⟩
      · rw [laps_of_error hp h, advance_of_error hp h, advance_of_error hp h]
      · rw [laps_of_ok hp h, advance_of_ok hp h, advance_of_ok hp h, advance_laps count d]

/-- From a place in the stream there is a lap for each packet left and one more at the end, within
the count, unless drawing fails before. -/
theorem laps_of_placed : ∀ (count : Nat) {c : Clock} {p : Nat}, c.pointer = some p →
    p ≤ c.length → laps count c ≤ min count (c.length - p + 1)
      ∧ ∀ r, advance count c = .ok r → laps count c = min count (c.length - p + 1)
  | 0, c, p, _, _ => by simp [laps]
  | count + 1, c, p, hp, hle => by
    rcases h : c.advanceOne with fault | ⟨d, ns, b⟩
    · rw [laps_of_error hp h, advance_of_error hp h]
      refine ⟨by omega, fun r hr => ?_⟩
      cases hr
    · rw [laps_of_ok hp h, advance_of_ok hp h]
      rcases advanceOne_of_pointer hp h with ⟨hlt, raster, rfl⟩ | ⟨hend, rfl⟩
      · obtain ⟨hbound, hexact⟩ := laps_of_placed count
          (c := { c with raster := raster, pointer := some (p + 1) }) rfl hlt
        have hlen : ({ c with raster := raster, pointer := some (p + 1) } : Clock).length
          = c.length := rfl
        rw [hlen] at hbound hexact
        refine ⟨by omega, fun r hr => ?_⟩
        obtain ⟨r', hr', -⟩ := bind_eq_ok.1 hr
        have hlaps := hexact r' hr'
        omega
      · -- The last lap is the one that finds the end.
        rw [laps_of_no_pointer rfl]
        exact ⟨by omega, fun _ _ => by omega⟩

/-! ## After any run -/

theorem Coherent.running_eq_false (h : Coherent c) (hp : c.pointer = none) :
    c.running = false := by
  rcases hr : c.running with _ | _
  · rfl
  · have hsome := h.pointer_of_running hr
    rw [hp] at hsome
    cases hsome

theorem fastForward_ok_of_run {t : OpcodeTable} (ht : t.StandardOnly) {syncOffsetMs : Float}
    (h : (fresh t syncOffsetMs).run ops = .ok (outcomes, c)) (n : Nat) :
    ∃ o, c.fastForward n = .ok o := by
  obtain ⟨_, _, hrun⟩ := run_ok_of_run ht h [(.fastForward n, ⟨0.0, .proceed⟩)]
  obtain ⟨o, -, ho, -, -⟩ := run_cons_eq_ok.1 hrun
  exact ⟨o, ho⟩

/-- Of a clock that any run of a new one led to, a batch after a batch makes what one batch of both
counts makes, faults included. From a place in the stream a batch makes what as many steps make, and
what a batch makes that leads one past the end; its loop takes no more laps than that, whatever the
count, and just as many unless drawing fails. A batch never sets the position. Without a pointer it
leaves all as it is, and a step drops the anchor and leaves the rest. With the format's own
constructors every batch succeeds. -/
theorem fastForward_laws_of_run {t : OpcodeTable} {syncOffsetMs : Float}
    (h : (fresh t syncOffsetMs).run ops = .ok (outcomes, c)) :
    (∀ m n k l, (c.run [(.fastForward m, k), (.fastForward n, l)]).map .joined
        = c.fastForward (m + n))
      ∧ (∀ p, c.pointer = some p → ∀ n,
        (∀ moments : List Moment, moments.length = n →
            (c.run (moments.map fun m => (.step, m))).map .joined = c.fastForward n)
          ∧ c.fastForward (min n (c.length - p + 1)) = c.fastForward n
          ∧ c.fastForward (laps n c) = c.fastForward n
          ∧ laps n c ≤ min n (c.length - p + 1)
          ∧ ∀ o, c.fastForward n = .ok o → laps n c = min n (c.length - p + 1))
      ∧ (∀ n o, c.fastForward n = .ok o → o.clock.positionMs = c.positionMs)
      ∧ (c.pointer = none → (∀ n, c.fastForward n = .ok ⟨c, [], 0, none⟩)
        ∧ c.step = .ok ⟨{ c with anchor := none }, [], 0, none⟩)
      ∧ (t.StandardOnly → ∀ n, ∃ o, c.fastForward n = .ok o) := by
  have hcoherent : Coherent c := (run_coherent h).1
  refine ⟨fun m n k l => ?_, fun p hp n => ?_, fun n o ho => ?_, fun hp => ?_,
    fun ht => fastForward_ok_of_run ht h⟩
  · simpa only [List.map_cons, List.map_nil, List.sum_cons, List.sum_nil, Nat.add_zero]
      using run_batches [(m, k), (n, l)] c
  · have hle := hcoherent.pointer_le p hp
    obtain ⟨hbound, hexact⟩ := laps_of_placed n hp hle
    refine ⟨?_, fastForward_min hp hle n, ?_, hbound, fun o ho => ?_⟩
    · rintro moments rfl
      exact run_steps moments (settled_of_pointer hp)
    · rw [fastForward, advance_laps, fastForward]
    · obtain ⟨r, hr, -⟩ := bind_eq_ok.1 ho
      exact hexact r hr
  · obtain ⟨⟨d, ns, k⟩, hadvance, ho⟩ := bind_eq_ok.1 ho
    cases ho
    exact (keepsTime_of_advance hadvance).positionMs_eq
  · exact ⟨fastForward_of_no_pointer hp, step_of_no_pointer hp (hcoherent.running_eq_false hp)⟩

/-- A clock that runs and is pinned has a tile left that is reported and not drawn: a batch of any
size, three steps and two batches all lead past it and off the stream. Pinned again there, the clock
loses the anchor with a step. -/
theorem fastForward_laws_of_run_end :
    let s : List Instruction :=
      [.memoryPreset 5 0, .tile .xor ⟨1, 2, 18, 3, Vector.replicate tileHeight 63⟩]
    let bytes := s.flatMap fun i => i.packet.bytes.toList
    let m : Moment := ⟨0.0, .proceed⟩
    let ops := [Op.load bytes, .play, .sync 10.0, .step].map fun op => (op, m)
    (∃ outcomes c o, (fresh .standard 0.0).run ops = .ok (outcomes, c) ∧ c.pointer = some 1
      ∧ c.length = 2 ∧ c.fastForward 18446744073709551615 = .ok o
      ∧ laps 18446744073709551615 c = 2 ∧ o.executed = 1 ∧ o.clock.pointer = none
      ∧ o.notices = [.diagnostic (.outOfBounds 18 3), .event (.endOfStream 2),
        .event (.stopped none)] ∧ o.clock.positionMs = c.positionMs
      ∧ (c.run [(.step, m), (.step, m), (.step, m)]).map .joined = .ok o
      ∧ (c.run [(.fastForward 1, m), (.fastForward 4, m)]).map .joined = .ok o)
    ∧ ∃ outcomes c, (fresh .standard 0.0).run (ops ++ [(.fastForward 5, m), (.sync 20.0, m)])
        = .ok (outcomes, c) ∧ c.pointer = none ∧ c.anchor.isSome = true
      ∧ c.fastForward 5 = .ok ⟨c, [], 0, none⟩
      ∧ c.step = .ok ⟨{ c with anchor := none }, [], 0, none⟩ := by
  intro s bytes m ops
  have hd : OpcodeTable.standard.decodeStream bytes = (s, []) := by decide +kernel
  constructor
  · have h : ∃ outcomes c o, (fresh .standard 0.0).run ops = .ok (outcomes, c)
        ∧ c.pointer = some 1 ∧ c.length = 2 ∧ c.fastForward 2 = .ok o ∧ o.executed = 1
        ∧ o.clock.pointer = none ∧ o.notices = [.diagnostic (.outOfBounds 18 3),
          .event (.endOfStream 2), .event (.stopped none)] := by
      simp only [ops, List.map_cons, List.map_nil, run, perform, load]
      rw [show (fresh .standard 0.0).table = .standard from rfl, hd]
      exact ⟨_, _, _, rfl, rfl, rfl, rfl, rfl, rfl, rfl⟩
    obtain ⟨outcomes, c, o, h, hp, hl, ho, hexecuted, hpointer, hnotices⟩ := h
    obtain ⟨hbatches, hplaced, hposition, -, -⟩ := fastForward_laws_of_run h
    have hfar : ∀ n, 2 ≤ n → c.fastForward n = .ok o := by
      intro n hn
      obtain ⟨-, hmin, -⟩ := hplaced 1 hp n
      rw [← hmin, hl, Nat.min_eq_right hn, ho]
    have hmost := hfar 18446744073709551615 (by decide)
    obtain ⟨-, -, -, -, hlaps⟩ := hplaced 1 hp 18446744073709551615
    refine ⟨outcomes, c, o, h, hp, hl, hmost, ?_, hexecuted, hpointer, hnotices,
      hposition 2 o ho, ?_, ?_⟩
    · rw [hlaps o hmost, hl]
      decide
    · rw [← hfar 3 (by decide)]
      exact (hplaced 1 hp 3).1 [m, m, m] rfl
    · rw [hbatches, hfar (1 + 4) (by decide)]
  · have h : ∃ outcomes c, (fresh .standard 0.0).run
        (ops ++ [(.fastForward 5, m), (.sync 20.0, m)]) = .ok (outcomes, c)
        ∧ c.pointer = none ∧ c.anchor.isSome = true := by
      simp only [ops, List.map_cons, List.map_nil, List.cons_append, List.nil_append, run, perform,
        load]
      rw [show (fresh .standard 0.0).table = .standard from rfl, hd]
      exact ⟨_, _, rfl, rfl, rfl⟩
    obtain ⟨outcomes, c, h, hp, ha⟩ := h
    obtain ⟨-, -, -, hnone, -⟩ := fastForward_laws_of_run h
    exact ⟨outcomes, c, h, hp, ha, (hnone hp).1 5, (hnone hp).2⟩

end Clock

end CdGraphics
