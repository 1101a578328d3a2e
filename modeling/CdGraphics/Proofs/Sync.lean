import CdGraphics.Proofs.Safety
import CdGraphics.Proofs.Timing

/-!
# Syncs

A sync pins the position to another clock's, so that of the times which a clock had kept nothing is
left after the next tick: clocks that differ in no more than these times are one clock from there
on, whatever follows (`resynced_of_run`). The anchor stands until the clock is stopped, rewound or
synced again, and while it stands a tick's position comes from it and the tick's own time alone.
-/

namespace CdGraphics

/-- The operation pins the position. -/
def Op.isSync : Op → Bool
  | sync _ => true
  | _ => false

namespace Clock

variable {c d : Clock} {op : Op} {m : Moment} {ops ops' : List (Op × Moment)}
  {outcomes outcomes' : List Outcome}

/-- The clocks agree in all but their positions, last ticks and anchors. -/
structure AlikeButTimes (c d : Clock) : Prop where
  table : c.table = d.table
  raster : c.raster = d.raster
  stream : c.stream = d.stream
  pointer : c.pointer = d.pointer
  running : c.running = d.running
  syncOffsetMs : c.syncOffsetMs = d.syncOffsetMs

/-! ## The tick after a sync -/

theorem targetAt_eq_retime (c : Clock) (now : Float) :
    c.targetAt now = (c.retime now).rate.packetsAt (c.retime now).positionMs := rfl

theorem AlikeButTimes.retime_sync (h : AlikeButTimes c d) (hrate : c.rate = d.rate)
    (ms wallMs now : Float) : (c.sync ms wallMs).retime now = (d.sync ms wallMs).retime now := by
  simp only [retime, sync, positionAt, h.table, h.raster, h.stream, h.pointer, h.running, hrate,
    h.syncOffsetMs]

theorem AlikeButTimes.tick_sync (h : AlikeButTimes c d) (hrate : c.rate = d.rate)
    (hr : c.running = true) {p : Nat} (hp : c.pointer = some p) (ms wallMs now : Float) :
    (c.sync ms wallMs).tick now = (d.sync ms wallMs).tick now := by
  rw [tick_of_running (c := c.sync ms wallMs) hr hp,
    tick_of_running (c := d.sync ms wallMs) (h.running ▸ hr) (h.pointer ▸ hp),
    targetAt_eq_retime, targetAt_eq_retime, h.retime_sync hrate]

/-! ## While the anchor stands -/

/-- Nothing but a sync sets an anchor. -/
theorem Timing.anchor_cases (h : Timing c m op d) (hop : op.isSync = false) :
    d.anchor = none ∨ d.anchor = c.anchor := by
  cases h with
  | rewind _ _ _ _ hd => exact .inl hd
  | keep _ hk => exact hk.anchor_cases
  | start | play | rest => exact .inr rfl
  | sync => cases hop
  | tick _ _ hk => exact hk.anchor_cases

theorem anchor_cases_of_run (hops : ∀ x ∈ ops, x.1.isSync = false)
    (h : c.run ops = .ok (outcomes, d)) : d.anchor = none ∨ d.anchor = c.anchor := by
  refine run_keep (Q := fun op => op.isSync = false)
    (P := fun e => e.anchor = none ∨ e.anchor = c.anchor) (fun e op m o hop ho he => ?_) hops h
    (.inr rfl)
  rcases (timing_of_perform ho).anchor_cases hop with hd | hd
  · exact .inl hd
  · rwa [hd]

/-- Where no start is among the operations, a clock that runs has run all along, with its anchor. -/
theorem Timing.going (h : Timing c m op d) (hop : op.timeless = true ∨ op.isTick = true)
    (hd : d.running = true) : c.running = true ∧ d.anchor = c.anchor := by
  have going : ∀ {e : Clock}, KeepsTime e d → e.running = true ∧ d.anchor = e.anchor := by
    intro e hk
    rcases hk.going_or_stopped with ⟨her, hea⟩ | ⟨hstop, -⟩
    · exact ⟨by rw [← her, hd], hea⟩
    · rw [hd] at hstop
      cases hstop
  cases h with
  | rewind hw => cases op <;> simp_all [Op.timeless, Op.isTick, Op.rewinds]
  | keep _ hk => exact going hk
  | start | play | sync => simp [Op.timeless, Op.isTick] at hop
  | tick _ _ hk =>
    obtain ⟨hcr, hca⟩ := going hk
    exact ⟨hcr, hca⟩
  | rest => exact ⟨hd, rfl⟩

theorem going_of_run (hops : ∀ x ∈ ops, x.1.timeless = true ∨ x.1.isTick = true)
    (h : c.run ops = .ok (outcomes, d)) : d.running = true →
      c.running = true ∧ d.anchor = c.anchor := by
  refine run_keep (Q := fun op => op.timeless = true ∨ op.isTick = true)
    (P := fun e => e.running = true → c.running = true ∧ e.anchor = c.anchor)
    (fun e op m o hop ho he hor => ?_) hops h (fun hc => ⟨hc, rfl⟩)
  obtain ⟨her, hea⟩ := (timing_of_perform ho).going hop hor
  rw [hea]
  exact he her

/-- What a sync to `ms` at the wall time `wallMs` makes of two clocks. -/
structure Resynced (c d : Clock) (ms wallMs : Float) : Prop where
  /-- The next tick leads both to the same clock, and has the same outcome in all else. -/
  tick : ∀ now m,
    (c.sync ms wallMs).perform (.tick now) m = (d.sync ms wallMs).perform (.tick now) m
  /-- It computes the position that was pinned and the time that went by since. -/
  position : ∀ now m o, (c.sync ms wallMs).perform (.tick now) m = .ok o →
    o.clock.positionMs = ms - c.syncOffsetMs + (now - wallMs)
  /-- Whatever follows that tick has the same outcomes for both. -/
  run : ∀ now m later, (c.sync ms wallMs).run ((.tick now, m) :: later)
    = (d.sync ms wallMs).run ((.tick now, m) :: later)
  /-- For as long as the anchor stands, a tick's position comes from the sync and its own time. -/
  standing : ∀ between rest e, (∀ x ∈ between, x.1.isSync = false) →
    (c.sync ms wallMs).run between = .ok (rest, e) → e.running = true → e.anchor ≠ none →
      ∀ now m o, e.perform (.tick now) m = .ok o →
        o.clock.positionMs = ms - c.syncOffsetMs + (now - wallMs)
  /-- It stands while the clock runs on without a rewind or another start. -/
  stands : ∀ between rest e, (∀ x ∈ between, x.1.timeless = true ∨ x.1.isTick = true) →
    (c.sync ms wallMs).run between = .ok (rest, e) → e.running = true → e.anchor ≠ none

/-- A sync at one wall time leaves nothing of the times that two running clocks, alike in all else,
had come to. With the format's own constructors each of them performs whatever follows. -/
theorem resynced_of_run {t t' : OpcodeTable} {offset offset' : Float}
    (hc : (fresh t offset).run ops = .ok (outcomes, c))
    (hd : (fresh t' offset').run ops' = .ok (outcomes', d)) (h : AlikeButTimes c d)
    (hr : c.running = true) (ms wallMs : Float) :
    Resynced c d ms wallMs
      ∧ (t.StandardOnly → ∀ later, ∃ rest e, (c.sync ms wallMs).run later = .ok (rest, e)) := by
  have hrate : c.rate = d.rate := (setup_of_run hc).2.trans (setup_of_run hd).2.symm
  have hsync : (fresh t offset).run (ops ++ [(.sync ms, ⟨wallMs, .proceed⟩)])
      = .ok (_, c.sync ms wallMs) :=
    run_concat_eq_ok.2 ⟨_, _, ⟨_, [], 0, none⟩, hc, rfl, rfl, rfl⟩
  obtain ⟨hcoherent, -, -⟩ := run_coherent hsync
  obtain ⟨p, hp⟩ := Option.isSome_iff_exists.1 (hcoherent.pointer_of_running hr)
  have htick : ∀ now m, (c.sync ms wallMs).perform (.tick now) m
      = (d.sync ms wallMs).perform (.tick now) m := by
    intro now m
    rw [perform, perform, h.tick_sync hrate hr hp]
  have hstanding : ∀ between rest e, (∀ x ∈ between, x.1.isSync = false) →
      (c.sync ms wallMs).run between = .ok (rest, e) → e.running = true → e.anchor ≠ none →
        ∀ now m o, e.perform (.tick now) m = .ok o →
          o.clock.positionMs = ms - c.syncOffsetMs + (now - wallMs) := by
    intro between rest e hbetween he her hea now m o ho
    have hanchor := (anchor_cases_of_run hbetween he).resolve_left hea
    rw [((timing_of_perform ho).of_tick her ((hcoherent.run he).pointer_of_running her)).1,
      positionAt, hanchor]
    rfl
  refine ⟨⟨htick, fun now m o ho => ?_, fun now m later => ?_, hstanding, ?_⟩, fun ht => ?_⟩
  · exact hstanding [] [] _ (by simp) rfl hr (Option.some_ne_none _) now m o ho
  · rw [Clock.run, Clock.run, htick]
  · intro between rest e hbetween he her hea
    rw [(going_of_run hbetween he her).2] at hea
    cases hea
  · exact run_ok_of_run ht hsync

/-- A clock that was just started, and one that was started later and synced once already, are
synced and ticked: both are at 40 ms less the offset of 10 ms, and the 5 ms since. -/
theorem resynced_of_run_started :
    let bytes := (Instruction.memoryPreset 5 0).packet.bytes.toList
    let ops := [(Op.load bytes, (⟨0.0, .proceed⟩ : Moment)), (.play, ⟨3.0, .proceed⟩)]
    let ops' := [(Op.load bytes, (⟨0.0, .proceed⟩ : Moment)), (.play, ⟨900.0, .proceed⟩),
      (.sync 77.0, ⟨950.0, .proceed⟩)]
    ∃ outcomes c outcomes' d o, (fresh .standard 10.0).run ops = .ok (outcomes, c)
      ∧ (fresh .standard 10.0).run ops' = .ok (outcomes', d) ∧ AlikeButTimes c d
      ∧ c.running = true ∧ c.lastTickMs ≠ d.lastTickMs ∧ c.anchor = none ∧ d.anchor ≠ none
      ∧ Resynced c d 40.0 1000.0
      ∧ (c.sync 40.0 1000.0).perform (.tick 1005.0) ⟨1005.0, .proceed⟩ = .ok o
      ∧ (d.sync 40.0 1000.0).perform (.tick 1005.0) ⟨1005.0, .proceed⟩ = .ok o
      ∧ o.clock.positionMs = 35.0 := by
  intro bytes ops ops'
  obtain ⟨outcomes, hc⟩ := run_load_play .standard 10.0 bytes ⟨0.0, .proceed⟩ ⟨3.0, .proceed⟩
  obtain ⟨outcomes', hd⟩ := run_load_play .standard 10.0 bytes ⟨0.0, .proceed⟩ ⟨900.0, .proceed⟩
  have hanchor : ((fresh .standard 10.0).load bytes).1.anchor = none := rfl
  have hoffset : ((fresh .standard 10.0).load bytes).1.syncOffsetMs = 10.0 := rfl
  generalize ((fresh .standard 10.0).load bytes).1 = l at hc hd hanchor hoffset
  have hd' : (fresh .standard 10.0).run ops' = .ok (_, _) :=
    (run_concat_eq_ok (x := (.sync 77.0, ⟨950.0, .proceed⟩))).2 ⟨_, _, _, hd, rfl, rfl, rfl⟩
  have halike : AlikeButTimes { l with running := true, lastTickMs := 3.0 }
      (sync { l with running := true, lastTickMs := 900.0 } 77.0 950.0) :=
    ⟨rfl, rfl, rfl, rfl, rfl, rfl⟩
  obtain ⟨hr, hok⟩ := resynced_of_run hc hd' halike rfl 40.0 1000.0
  obtain ⟨_, e, hrun⟩ := hok OpcodeTable.standardOnly_standard [(.tick 1005.0, ⟨1005.0, .proceed⟩)]
  obtain ⟨o, _, ho, -, -⟩ := run_cons_eq_ok.1 hrun
  refine ⟨_, _, _, _, o, hc, hd', halike, rfl, ?_, hanchor, Option.some_ne_none _, hr, ho,
    hr.tick _ _ ▸ ho, ?_⟩
  · show (3.0 : Float) ≠ 900.0
    decide +kernel
  · rw [hr.position _ _ o ho, hoffset]
    decide +kernel

end Clock

end CdGraphics
