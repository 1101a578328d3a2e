import CdGraphics.Proofs.Safety
import CdGraphics.Proofs.Timing

/-!
# Pauses

A stopped clock is at rest: ticks leave it as it is, and only a start makes it run again. However it
came to stop, it has no anchor unless it was synced since, and what a host does meanwhile keeps its
position, so that after the next start time counts from the moment of that start: a pause, however
long, adds nothing. `atRest_of_run` says this of every stopped clock that a run leads to.
-/

namespace CdGraphics

namespace Clock

variable {c d : Clock} {op : Op} {m : Moment} {ops : List (Op × Moment)}
  {outcomes : List Outcome}

theorem keepsTime_of_run_timeless (hops : ∀ x ∈ ops, x.1.timeless = true)
    (h : c.run ops = .ok (outcomes, d)) : KeepsTime c d :=
  run_keep (Q := fun op => op.timeless = true) (P := KeepsTime c)
    (fun _ _ _ _ hop ho hk => hk.trans ((timing_of_perform ho).keepsTime (.inl hop)))
    hops h (.refl c)

theorem keepsTime_of_run_stopped (hops : ∀ x ∈ ops, x.1.timeless = true ∨ x.1.isTick = true)
    (hr : c.running = false) (h : c.run ops = .ok (outcomes, d)) : KeepsTime c d := by
  refine run_keep (Q := fun op => op.timeless = true ∨ op.isTick = true) (P := KeepsTime c)
    (fun e op m o hop ho hk => ?_) hops h (.refl c)
  have her := hk.running_eq_false hr
  exact hk.trans ((timing_of_perform ho).keepsTime (hop.imp_right fun ht => ⟨ht, her⟩))

/-! ## Rest -/

theorem run_ticks_of_stopped (hr : c.running = false) : ∀ {ops : List (Op × Moment)},
    (∀ x ∈ ops, x.1.isTick = true) → c.run ops = .ok (ops.map fun _ => ⟨c, [], 0, none⟩, c)
  | [], _ => rfl
  | (op, m) :: rest, hops => by
    obtain ⟨hop, hops⟩ := List.forall_mem_cons.1 hops
    refine run_cons_eq_ok.2 ⟨⟨c, [], 0, none⟩, _, ?_, run_ticks_of_stopped hr hops, rfl⟩
    cases op with
    | tick now =>
      rw [perform, tick_of_not_running hr]
      rfl
    | _ => cases hop

/-- Nothing but a start makes a stopped clock run. -/
theorem Timing.running_iff (h : Timing c m op d) (hr : c.running = false) :
    d.running = true ↔ op = .play ∧ c.stream.isSome = true ∧ c.pointer.isSome = true := by
  cases h with
  | rewind hw hd => cases op <;> simp_all [Op.rewinds]
  | keep hop hk =>
    rw [hk.running_eq_false hr]
    cases op <;> simp_all [Op.timeless]
  | start _ hs hp => simp [hs, hp]
  | play hidle =>
    rcases hidle with hidle | hidle | hidle <;> simp [hr, hidle] at *
  | sync ms => simp [Clock.sync, hr]
  | tick hrun =>
    rw [hr] at hrun
    cases hrun
  | rest => simp [hr]

theorem start_of_run : ∀ {ops : List (Op × Moment)} {c : Clock} {outcomes : List Outcome},
    c.running = false → c.run ops = .ok (outcomes, d) → d.running = true →
      ∃ before m after first e, ops = before ++ (.play, m) :: after
        ∧ c.run before = .ok (first, e) ∧ e.running = false ∧ e.stream.isSome = true
        ∧ e.pointer.isSome = true
  | [], c, outcomes, hr, h, hd => by
    cases h
    rw [hr] at hd
    cases hd
  | (op, m) :: rest, c, outcomes, hr, h, hd => by
    obtain ⟨o, later, ho, hrest, -⟩ := run_cons_eq_ok.1 h
    rcases hor : o.clock.running with _ | _
    · obtain ⟨before, k, after, first, e, rfl, hb, he⟩ := start_of_run hor hrest hd
      exact ⟨(op, m) :: before, k, after, o :: first, e, rfl,
        run_cons_eq_ok.2 ⟨o, first, ho, hb, rfl⟩, he⟩
    · obtain ⟨rfl, hs, hp⟩ := ((timing_of_perform ho).running_iff hr).1 hor
      exact ⟨[], m, rest, [], c, rfl, rfl, hr, hs, hp⟩

/-- Every way to a stop drops the anchor: a stopped clock has one only if it was stopped before, and
had it then or has just been synced. -/
theorem Timing.of_stopped (h : Timing c m op d) (hr : d.running = false) (ha : d.anchor ≠ none) :
    c.running = false ∧ (c.anchor ≠ none ∨ ∃ ms, op = .sync ms) := by
  have kept : ∀ {e : Clock}, KeepsTime e d → e.running = false ∧ e.anchor ≠ none := by
    intro e hk
    rcases hk.going_or_stopped with ⟨her, hea⟩ | ⟨-, hea⟩
    · rw [← her, ← hea]
      exact ⟨hr, ha⟩
    · exact absurd hea ha
  cases h with
  | rewind _ _ _ _ hd => exact absurd hd ha
  | keep _ hk => exact ⟨(kept hk).1, .inl (kept hk).2⟩
  | start => cases hr
  | play => exact ⟨hr, .inl ha⟩
  | sync ms => exact ⟨hr, .inr ⟨ms, rfl⟩⟩
  | tick hrun _ hk =>
    have hstop : c.running = false := (kept hk).1
    rw [hrun] at hstop
    cases hstop
  | rest => exact ⟨hr, .inl ha⟩

theorem sync_of_run_stopped {start : Clock} (hstart : start.anchor = none)
    (h : start.run ops = .ok (outcomes, c)) :
    c.running = false → c.anchor ≠ none → ∃ before ms m after first e,
      ops = before ++ (.sync ms, m) :: after ∧ start.run before = .ok (first, e)
        ∧ e.running = false := by
  refine run_induction (P := fun ops _ c => c.running = false → c.anchor ≠ none →
    ∃ before ms m after first e, ops = before ++ (.sync ms, m) :: after
      ∧ start.run before = .ok (first, e) ∧ e.running = false)
    (fun _ ha => absurd hstart ha) ?_ h
  intro ops outcomes e op m o hrun ih ho hr ha
  obtain ⟨her, hea | ⟨ms, rfl⟩⟩ := (timing_of_perform ho).of_stopped hr ha
  · obtain ⟨before, ms, k, after, first, f, rfl, hb, hf⟩ := ih her hea
    exact ⟨before, ms, k, after ++ [(op, m)], first, f, by simp, hb, hf⟩
  · exact ⟨ops, ms, m, [], outcomes, e, rfl, hrun, her⟩

/-! ## Time -/

theorem KeepsTime.positionAt_eq (h : KeepsTime c d) (ha : c.anchor = none) (now : Float) :
    d.positionAt now = c.positionMs + (now - c.lastTickMs) := by
  unfold positionAt
  rw [h.anchor_eq_none ha, h.positionMs_eq, h.lastTickMs_eq]

/-- A start takes its own moment for the last tick, and changes nothing else. -/
theorem perform_play (hr : c.running = false) (hs : c.stream.isSome = true)
    (hp : c.pointer.isSome = true) : c.perform .play m
      = .ok ⟨{ c with running := true, lastTickMs := m.wallMs }, [.event (.started c.positionMs)],
        0, none⟩ := by
  rw [perform, play, hr, hs, hp]
  rfl

/-- What a clock that `ops` of a new clock led to, and that is not running, does from there on. -/
structure AtRest (start : Clock) (ops : List (Op × Moment)) (c : Clock) : Prop where
  /-- Any number of ticks at any times execute nothing, tell nothing, hand over no frame and leave
  the whole clock as it is. -/
  ticks : ∀ later : List (Op × Moment), (∀ x ∈ later, x.1.isTick = true) →
    c.run later = .ok (later.map fun _ => ⟨c, [], 0, none⟩, c)
  /-- An operation makes it run just if it is a start and there is something to play. -/
  running_iff : ∀ op m o, c.perform op m = .ok o →
    (o.clock.running = true ↔ op = .play ∧ c.stream.isSome = true ∧ c.pointer.isSome = true)
  /-- Where any operations lead to a running clock, there is such a start among them. -/
  started : ∀ later rest d, c.run later = .ok (rest, d) → d.running = true →
    ∃ before m after first e, later = before ++ (.play, m) :: after
      ∧ c.run before = .ok (first, e) ∧ e.running = false ∧ e.stream.isSome = true
      ∧ e.pointer.isSome = true
  /-- It has an anchor only from a sync that came while it was stopped. -/
  synced : c.anchor ≠ none → ∃ before ms m after first e,
    ops = before ++ (.sync ms, m) :: after ∧ start.run before = .ok (first, e) ∧ e.running = false
  /-- Without an anchor, after a pause and the start that ends it the first tick computes the
  position at which it stopped and the time that went by since the start. -/
  resumed : c.anchor = none → ∀ pause rest d play o,
    (∀ x ∈ pause, x.1.timeless = true ∨ x.1.isTick = true) → c.run pause = .ok (rest, d) →
    d.perform .play play = .ok o → o.clock.running = true →
    ∀ wait waited e, (∀ x ∈ wait, x.1.timeless = true) → o.clock.run wait = .ok (waited, e) →
    ∀ now, e.positionAt now = c.positionMs + (now - play.wallMs)
      ∧ ∀ m q, e.running = true → e.perform (.tick now) m = .ok q →
        q.clock.positionMs = c.positionMs + (now - play.wallMs) ∧ q.clock.lastTickMs = now

/-- Every clock that a run of a new one leads to and that is not running is at rest. With the
format's own constructors it performs whatever is asked of it. -/
theorem atRest_of_run {t : OpcodeTable} {syncOffsetMs : Float}
    (h : (fresh t syncOffsetMs).run ops = .ok (outcomes, c)) (hr : c.running = false) :
    AtRest (fresh t syncOffsetMs) ops c
      ∧ (t.StandardOnly → ∀ later, ∃ rest d, c.run later = .ok (rest, d)) := by
  refine ⟨⟨fun _ => run_ticks_of_stopped hr, fun _ _ _ ho => (timing_of_perform ho).running_iff hr,
    fun _ _ _ => start_of_run hr, sync_of_run_stopped rfl h hr, ?_⟩, fun ht => run_ok_of_run ht h⟩
  intro ha pause rest d play o hpause hd ho hor wait waited e hwait he now
  have hk := keepsTime_of_run_stopped hpause hr hd
  have hdr := hk.running_eq_false hr
  have hstart : o.clock = { d with running := true, lastTickMs := play.wallMs } := by
    obtain ⟨-, hs, hp⟩ := ((timing_of_perform ho).running_iff hdr).1 hor
    rw [perform_play hdr hs hp] at ho
    exact congrArg Outcome.clock (Except.ok.inj ho).symm
  have hanchor : o.clock.anchor = none := by
    rw [hstart]
    exact hk.anchor_eq_none ha
  have hposition : e.positionAt now = c.positionMs + (now - play.wallMs) := by
    rw [(keepsTime_of_run_timeless hwait he).positionAt_eq hanchor, hstart]
    simp only [hk.positionMs_eq]
  refine ⟨hposition, fun m q her hq => ?_⟩
  have hcoherent : Coherent e := ((((run_coherent h).1.run hd).perform ho).run he)
  rw [← hposition]
  exact (timing_of_perform hq).of_tick her (hcoherent.pointer_of_running her)

/-- A clock that a tick brought to 2 ms is stopped, ticked all the same, and started again at
1000 ms: at 1005 ms it is at 7 ms. -/
theorem atRest_of_run_resumed :
    let bytes := (Instruction.memoryPreset 5 0).packet.bytes.toList
    let ops := [Op.load bytes, .play, .tick 2.0, .stop].map
      fun op => (op, (⟨0.0, .proceed⟩ : Moment))
    let pause := [Op.tick 500.0, .stop].map fun op => (op, (⟨500.0, .halt⟩ : Moment))
    ∃ outcomes c rest d o, (fresh .standard 0.0).run ops = .ok (outcomes, c)
      ∧ c.running = false ∧ c.anchor = none ∧ c.positionMs = 2.0
      ∧ (∀ x ∈ pause, x.1.timeless = true ∨ x.1.isTick = true) ∧ c.run pause = .ok (rest, d)
      ∧ d.perform .play ⟨1000.0, .proceed⟩ = .ok o ∧ o.clock.running = true
      ∧ AtRest (fresh .standard 0.0) ops c ∧ o.clock.positionAt 1005.0 = 7.0 := by
  intro bytes ops pause
  have hplay : ∃ outcomes c, (fresh .standard 0.0).run (ops.take 2) = .ok (outcomes, c)
      ∧ c.running = true ∧ c.pointer = some 0 ∧ c.stream.isSome = true
      ∧ c.positionAt 2.0 = 2.0 ∧ c.targetAt 2.0 = 0 := by
    obtain ⟨outcomes, h⟩ := run_load_play .standard 0.0 bytes ⟨0.0, .proceed⟩ ⟨0.0, .proceed⟩
    exact ⟨outcomes, _, h, rfl, rfl, rfl, by decide +kernel, by decide +kernel⟩
  obtain ⟨outcomes, c, h, hr, hp, hs, hpos, ht⟩ := hplay
  have htick : c.perform (.tick 2.0) ⟨0.0, .proceed⟩ = .ok ⟨c.retime 2.0, [], 0, none⟩ := by
    rw [perform, tick_of_running hr hp, ht]
    rfl
  have hstop : (fresh .standard 0.0).run ops = .ok (_, (c.retime 2.0).stop.1) :=
    run_concat_eq_ok.2 ⟨_, _, ⟨_, (c.retime 2.0).stop.2, 0, none⟩,
      (run_concat_eq_ok (x := (.tick 2.0, ⟨0.0, .proceed⟩))).2 ⟨_, _, _, h, htick, rfl, rfl⟩,
      rfl, rfl, rfl⟩
  have hpause : ∀ x ∈ pause, x.1.timeless = true ∨ x.1.isTick = true := by
    simp [pause, Op.timeless, Op.isTick]
  have hstart := perform_play (c := (c.retime 2.0).stop.1) (m := ⟨1000.0, .proceed⟩) rfl hs
    (show c.pointer.isSome = true by rw [hp]; rfl)
  obtain ⟨hc, -⟩ := atRest_of_run hstop rfl
  refine ⟨_, _, _, _, _, hstop, rfl, rfl, hpos, hpause, rfl, hstart, rfl, hc, ?_⟩
  rw [(hc.resumed rfl pause _ _ _ _ hpause rfl hstart rfl [] [] _ (by simp) rfl 1005.0).1, stop_fst]
  show c.positionAt 2.0 + (1005.0 - 1000.0) = 7.0
  rw [hpos]
  decide +kernel

end Clock

end CdGraphics
