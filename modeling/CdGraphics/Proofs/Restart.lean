import CdGraphics.Proofs.Sync

/-!
# Rewinding while playing

A running clock counts from its last beat, the last tick or start. A load or a reset sets its
position back to 0 and leaves the time of that beat, so that the new pass begins at the beat and
not at the rewind: the time between the two is counted (`position_of_rewound_early`).
`resumed_of_rewound` says what the next tick computes after every rewind, and where that is the
time since the rewind.
-/

namespace CdGraphics

namespace Clock

/-- An operation on a clock that sets the time from which a running clock counts. -/
inductive Beat (c : Clock) : Op × Moment → Float → Prop
  | start (m : Moment) : c.running = false → c.stream.isSome = true → c.pointer.isSome = true →
      Beat c (.play, m) m.wallMs
  | tick (now : Float) (m : Moment) : c.running = true → c.pointer.isSome = true →
      Beat c (.tick now, m) now

/-- The last beat of a run from `start` came at a time. -/
def LastBeat (start : Clock) (ops : List (Op × Moment)) (time : Float) : Prop :=
  ∃ before x after outcomes c, ops = before ++ x :: after ∧ start.run before = .ok (outcomes, c)
    ∧ c.Beat x time ∧ ∀ before' x' after' outcomes' c' time', ops = before' ++ x' :: after' →
      start.run before' = .ok (outcomes', c') → c'.Beat x' time' → before'.length ≤ before.length

variable {start c d : Clock} {op : Op} {m : Moment} {ops : List (Op × Moment)}
  {outcomes : List Outcome} {time : Float}

theorem LastBeat.of_beat {x : Op × Moment} (h : start.run ops = .ok (outcomes, c))
    (hx : c.Beat x time) : LastBeat start (ops ++ [x]) time := by
  refine ⟨ops, x, [], outcomes, c, rfl, h, hx, fun before' x' after' _ _ _ he _ _ => ?_⟩
  have := congrArg List.length he
  simp only [List.length_append, List.length_cons, List.length_nil] at this
  omega

theorem LastBeat.extend {x : Op × Moment} (h : start.run ops = .ok (outcomes, c))
    (hx : ∀ time, ¬ c.Beat x time) (hl : LastBeat start ops time) :
    LastBeat start (ops ++ [x]) time := by
  obtain ⟨before, y, after, first, e, rfl, he, hy, hlast⟩ := hl
  refine ⟨before, y, after ++ [x], first, e, by simp, he, hy, ?_⟩
  intro before' x' after' first' e' time' heq he' hx'
  rcases List.eq_nil_or_concat after' with rfl | ⟨after', z, rfl⟩
  · -- The beat would be the operation added, which is none.
    obtain ⟨rfl, hxx⟩ := List.append_inj' heq rfl
    cases hxx
    rw [h] at he'
    cases he'
    exact absurd hx' (hx _)
  · rw [List.concat_eq_append, ← List.cons_append, ← List.append_assoc] at heq
    exact hlast _ _ _ _ _ _ (List.append_inj' heq rfl).1 he' hx'

/-- What leaves a clock running either is a beat, from which the clock then counts, or found it
running and leaves the time from which it counts. -/
theorem Timing.beat_cases (h : Timing c m op d) (hr : d.running = true) :
    c.Beat (op, m) d.lastTickMs
      ∨ (∀ time, ¬ c.Beat (op, m) time) ∧ c.running = true ∧ d.lastTickMs = c.lastTickMs := by
  have going : ∀ {e : Clock}, KeepsTime e d → e.running = true := by
    intro e hk
    by_contra he
    rw [hk.running_eq_false (by simpa using he)] at hr
    cases hr
  cases h with
  | rewind hw hd _ hl =>
    refine .inr ⟨fun time hb => ?_, by rw [← hd, hr], hl⟩
    cases hb <;> cases hw
  | keep hop hk =>
    refine .inr ⟨fun time hb => ?_, going hk, hk.lastTickMs_eq⟩
    cases hb <;> cases hop
  | start hc hs hp => exact .inl (.start m hc hs hp)
  | play =>
    refine .inr ⟨fun time hb => ?_, hr, rfl⟩
    cases hb with
    | start _ hc =>
      rw [hr] at hc
      cases hc
  | sync ms =>
    refine .inr ⟨fun time hb => ?_, hr, rfl⟩
    cases hb
  | tick hc hp hk =>
    rw [hk.lastTickMs_eq]
    exact .inl (.tick _ m hc hp)
  | rest hidle =>
    refine .inr ⟨fun time hb => ?_, hr, rfl⟩
    cases hb with
    | tick _ _ hc hp =>
      rcases hidle with hidle | hidle
      · rw [hc] at hidle
        cases hidle
      · rw [hidle] at hp
        cases hp

theorem lastBeat_of_run (hstart : start.running = false) (h : start.run ops = .ok (outcomes, c)) :
    c.running = true → LastBeat start ops c.lastTickMs := by
  refine run_induction (P := fun ops _ c => c.running = true → LastBeat start ops c.lastTickMs)
    (fun hr => ?_) ?_ h
  · rw [hstart] at hr
    cases hr
  · intro ops outcomes e op m o hrun ih ho hr
    rcases (timing_of_perform ho).beat_cases hr with hb | ⟨hb, her, hl⟩
    · exact .of_beat hrun hb
    · rw [hl]
      exact (ih her).extend hrun hb

/-! ## After a rewind -/

/-- The clock is at position 0 and counts on from its last beat. -/
structure AtZero (c : Clock) : Prop where
  positionMs : c.positionMs = 0.0
  anchor : c.anchor = none

theorem Timing.atZero_of_rewinds (h : Timing c m op d) (hop : op.rewinds = true) : AtZero d := by
  cases h with
  | rewind _ _ hp _ ha => exact ⟨hp, ha⟩
  | keep hop' => cases op <;> simp_all [Op.rewinds, Op.timeless]
  | start | play | sync | tick | rest => cases hop

/-- Only ticks and syncs take a clock away from there. -/
theorem Timing.atZero (h : Timing c m op d) (hop : op.isSync = false ∧ op.isTick = false)
    (hc : AtZero c) : AtZero d := by
  cases h with
  | rewind _ _ hp _ ha => exact ⟨hp, ha⟩
  | keep _ hk => exact ⟨by rw [hk.positionMs_eq, hc.positionMs], hk.anchor_eq_none hc.anchor⟩
  | start => exact ⟨hc.positionMs, hc.anchor⟩
  | play => exact hc
  | sync => cases hop.1
  | tick | rest => cases hop.2

theorem AtZero.run {rest : List Outcome} (hc : AtZero c)
    (hops : ∀ x ∈ ops, x.1.isSync = false ∧ x.1.isTick = false)
    (h : c.run ops = .ok (rest, d)) : AtZero d :=
  run_keep (fun _ _ _ _ hop ho he => (timing_of_perform ho).atZero hop he) hops h hc

theorem AtZero.positionAt_eq (h : AtZero c) (now : Float) :
    c.positionAt now = 0.0 + (now - c.lastTickMs) := by
  unfold positionAt
  rw [h.anchor, h.positionMs]

/-- Only ticks and starts set the time from which a clock counts. -/
theorem Timing.lastTickMs_eq (h : Timing c m op d) (hop : op.isTick = false ∧ op ≠ .play) :
    d.lastTickMs = c.lastTickMs := by
  cases h with
  | rewind _ _ _ hl => exact hl
  | keep _ hk => exact hk.lastTickMs_eq
  | sync => rfl
  | start | play => exact absurd rfl hop.2
  | tick | rest => cases hop.1

theorem lastTickMs_of_run {rest : List Outcome}
    (hops : ∀ x ∈ ops, x.1.isTick = false ∧ x.1 ≠ .play) (h : c.run ops = .ok (rest, d)) :
    d.lastTickMs = c.lastTickMs :=
  run_keep (P := fun e => e.lastTickMs = c.lastTickMs)
    (fun _ _ _ _ hop ho he => ((timing_of_perform ho).lastTickMs_eq hop).trans he) hops h rfl

/-- A running clock is rewound and asked for anything but a tick or a sync. Wherever it runs after
that, the next tick computes the time since the last beat of all that was done. This is the time
since the rewind where, with no start in between, the last beat before the rewind came at the same
reading. With the format's own constructors the clock performs whatever is asked of it. -/
theorem resumed_of_rewound {t : OpcodeTable} {syncOffsetMs : Float}
    (h : (fresh t syncOffsetMs).run ops = .ok (outcomes, c)) (hr : c.running = true) :
    LastBeat (fresh t syncOffsetMs) ops c.lastTickMs
      ∧ (∀ rewind m o between rest d, rewind.rewinds = true →
        (∀ x ∈ between, x.1.isSync = false ∧ x.1.isTick = false) →
        c.perform rewind m = .ok o → o.clock.run between = .ok (rest, d) → d.running = true →
        LastBeat (fresh t syncOffsetMs) (ops ++ (rewind, m) :: between) d.lastTickMs
          ∧ ∀ now k q, d.perform (.tick now) k = .ok q →
            q.clock.positionMs = 0.0 + (now - d.lastTickMs)
              ∧ ((∀ x ∈ between, x.1 ≠ .play) → c.lastTickMs = m.wallMs →
                q.clock.positionMs = 0.0 + (now - m.wallMs)))
      ∧ (t.StandardOnly → ∀ later, ∃ rest d, c.run later = .ok (rest, d)) := by
  refine ⟨lastBeat_of_run rfl h hr, ?_, fun ht => run_ok_of_run ht h⟩
  intro rewind m o between rest d hw hbetween ho hd hdr
  have hrun : (fresh t syncOffsetMs).run (ops ++ (rewind, m) :: between)
      = .ok (outcomes ++ o :: rest, d) := by
    rw [run_append, h]
    exact bind_eq_ok.2 ⟨_, rfl, bind_eq_ok.2
      ⟨(o :: rest, d), run_cons_eq_ok.2 ⟨o, rest, ho, hd, rfl⟩, rfl⟩⟩
  refine ⟨lastBeat_of_run rfl hrun hdr, fun now k q hq => ?_⟩
  have hzero : AtZero d := ((timing_of_perform ho).atZero_of_rewinds hw).run hbetween hd
  have hposition : q.clock.positionMs = 0.0 + (now - d.lastTickMs) := by
    have hpointer := (run_coherent hrun).1.pointer_of_running hdr
    rw [((timing_of_perform hq).of_tick hdr hpointer).1, hzero.positionAt_eq]
  refine ⟨hposition, fun hplay hl => ?_⟩
  have hrewind : rewind.isTick = false ∧ rewind ≠ .play := by
    cases rewind <;> simp_all [Op.rewinds, Op.isTick]
  rw [hposition, lastTickMs_of_run (fun x hx => ⟨(hbetween x hx).2, hplay x hx⟩) hd,
    (timing_of_perform ho).lastTickMs_eq hrewind, hl]

/-- A clock is started at 4 ms and, at that reading, rewound: at 10 ms it is at 6 ms. -/
theorem resumed_of_rewound_started :
    let bytes := (Instruction.memoryPreset 5 0).packet.bytes.toList
    let ops := [(Op.load bytes, (⟨0.0, .proceed⟩ : Moment)), (.play, ⟨4.0, .proceed⟩)]
    let moment : Moment := ⟨4.0, .proceed⟩
    ∃ outcomes c o q, (fresh .standard 0.0).run ops = .ok (outcomes, c) ∧ c.running = true
      ∧ LastBeat (fresh .standard 0.0) ops 4.0 ∧ c.perform .reset moment = .ok o
      ∧ o.clock.running = true ∧ o.clock.perform (.tick 10.0) moment = .ok q
      ∧ q.clock.positionMs = 6.0 := by
  intro bytes ops moment
  obtain ⟨outcomes, h⟩ := run_load_play .standard 0.0 bytes ⟨0.0, .proceed⟩ moment
  obtain ⟨hl, hnext, hok⟩ := resumed_of_rewound h rfl
  obtain ⟨_, _, hrun⟩ :=
    hok OpcodeTable.standardOnly_standard [(.reset, moment), (.tick 10.0, moment)]
  obtain ⟨o, _, ho, hrun, -⟩ := run_cons_eq_ok.1 hrun
  obtain ⟨q, _, hq, -, -⟩ := run_cons_eq_ok.1 hrun
  cases ho
  refine ⟨outcomes, _, _, q, h, rfl, hl, rfl, rfl, hq, ?_⟩
  obtain ⟨-, hposition⟩ := hnext .reset moment _ [] [] _ rfl (by simp) rfl rfl rfl
  rw [(hposition 10.0 moment q hq).2 (by simp) rfl]
  decide +kernel

/-- A clock that was started at 0 ms is rewound at 1000 ms: its next tick, at 1010 ms, does not
compute the 10 ms since. -/
theorem position_of_rewound_early : ¬ ∀ (t : OpcodeTable) (syncOffsetMs : Float)
    (ops : List (Op × Moment)) (outcomes : List Outcome) (c : Clock) (rewind : Op) (m k : Moment)
    (o q : Outcome) (now : Float), (fresh t syncOffsetMs).run ops = .ok (outcomes, c) →
      c.running = true → rewind.rewinds = true → c.perform rewind m = .ok o →
      o.clock.perform (.tick now) k = .ok q → q.clock.positionMs = 0.0 + (now - m.wallMs) := by
  intro h
  obtain ⟨outcomes, hrun⟩ := run_load_play .standard 0.0 [] ⟨0.0, .proceed⟩ ⟨0.0, .proceed⟩
  have hok := run_ok_of_run OpcodeTable.standardOnly_standard hrun
  obtain ⟨_, _, hlater⟩ :=
    hok [(.reset, ⟨1000.0, .proceed⟩), (.tick 1010.0, ⟨1010.0, .proceed⟩)]
  obtain ⟨o, _, ho, hlater, -⟩ := run_cons_eq_ok.1 hlater
  obtain ⟨q, _, hq, -, -⟩ := run_cons_eq_ok.1 hlater
  have hsince := h _ _ _ _ _ .reset _ _ _ _ _ hrun rfl rfl ho hq
  cases ho
  have hposition := ((timing_of_perform hq).of_tick rfl rfl).1
  rw [hposition] at hsince
  exact absurd hsince (by decide +kernel)

end Clock

end CdGraphics
