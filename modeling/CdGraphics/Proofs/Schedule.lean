import CdGraphics.Proofs.Advance
import CdGraphics.Proofs.Pass
import CdGraphics.Proofs.Safety

/-!
# Schedules of ticks

How a host spaces its ticks does not matter: only the farthest packet that they are to reach does
(`peak`). A tick sends the clock on to its target and never back (`placed`), so that ticks compose
as the maximum of their targets does (`placed_placed`), and within a pass the place decides what
was drawn, reported and counted. `run_ticks_of_peak` is this for any two schedules.
-/

namespace CdGraphics

namespace Clock

/-- Ticks at these times, for a host that lets playback go on. -/
def ticks (times : List Float) : List (Op × Moment) :=
  times.map fun now => (.tick now, ⟨now, .proceed⟩)

/-- The packets that ticks at these times are to reach, for as long as the clock is running. -/
def targets (c : Clock) : List Float → List Nat
  | [] => []
  | now :: later =>
    if c.running then
      c.targetAt now :: match c.tick now with
        | .ok o => o.clock.targets later
        | .error _ => []
    else []

/-- The farthest of these packets. -/
def peak (c : Clock) (times : List Float) : Nat := (c.targets times).foldr max 0

/-- Where a clock that was sent on to a packet is, in a stream of `length` packets: where it was if
it had come as far, and off the stream if the packet lies past its end. -/
def placed (length target : Nat) (place : Option Nat) : Option Nat :=
  place.bind fun p => if target ≤ p then some p else if target ≤ length then some target else none

variable {c d : Clock} {o : Outcome} {p : Nat} {now : Float} {times later : List Float}
  {outcomes : List Outcome}

/-! ## Targets -/

theorem peak_nil (c : Clock) : c.peak [] = 0 := rfl

theorem peak_cons (hr : c.running = true) (h : c.tick now = .ok o) :
    c.peak (now :: later) = max (c.targetAt now) (o.clock.peak later) := by
  simp [peak, targets, hr, h]

theorem peak_singleton (hr : c.running = true) (now : Float) :
    c.peak [now] = c.targetAt now := by
  unfold peak targets
  rw [if_pos hr]
  cases c.tick now <;> simp [targets]

/-! ## Places -/

theorem placed_zero (n : Nat) (place : Option Nat) : placed n 0 place = place := by
  cases place <;> simp [placed]

theorem placed_none (n target : Nat) : placed n target none = none := rfl

/-- To be sent on twice is to be sent on to the farther packet. -/
theorem placed_placed (n a b : Nat) (place : Option Nat) :
    placed n b (placed n a place) = placed n (max a b) place := by
  rcases place with _ | p
  · rfl
  rcases Nat.le_total a b with hab | hba
  · rw [Nat.max_eq_right hab]
    by_cases hp : a ≤ p
    · simp [placed, hp]
    · have hb : ¬ b ≤ p := by omega
      by_cases hn : a ≤ n
      · by_cases hba : b ≤ a
        · obtain rfl : a = b := Nat.le_antisymm hab hba
          simp [placed, hp, hn]
        · simp [placed, hp, hn, hb, hba]
      · -- Off the stream the clock stays, and the farther packet is past the end as well.
        have hbn : ¬ b ≤ n := by omega
        simp [placed, hp, hn, hb, hbn]
  · rw [Nat.max_eq_left hba]
    by_cases hp : a ≤ p
    · have hb : b ≤ p := by omega
      simp [placed, hp, hb]
    · by_cases hn : a ≤ n <;> simp [placed, hp, hn, hba]

/-! ## Runs of ticks -/

theorem perform_tick_proceed (c : Clock) (now wallMs : Float) :
    c.perform (.tick now) ⟨wallMs, .proceed⟩ = c.tick now := by
  have hheed : ∀ o : Outcome, o.heed .proceed = o := fun o => by
    unfold Outcome.heed
    split <;> simp_all
  simp only [perform, hheed]
  exact congrFun Except.map_id (c.tick now)

theorem ticks_rewinds (times : List Float) : ∀ x ∈ ticks times, x.1.rewinds = false := by
  intro x hx
  obtain ⟨now, -, rfl⟩ := List.mem_map.1 hx
  rfl

/-- A tick sends the clock on to its target, and stops it just where it leaves the stream. -/
theorem pointer_of_tick (hc : Coherent c) (hr : c.running = true) (h : c.tick now = .ok o) :
    o.clock.pointer = placed c.length (c.targetAt now) c.pointer
      ∧ o.clock.running = o.clock.pointer.isSome := by
  obtain ⟨p, hp⟩ := Option.isSome_iff_exists.1 (hc.pointer_of_running hr)
  have hle := hc.pointer_le p hp
  rw [hp, placed, Option.bind_some]
  rcases tick_cases hr hp h with ⟨ht, rfl⟩ | ⟨ht, ha, -⟩
  · rw [if_pos ht]
    exact ⟨hp, by simp [retime, hr, hp]⟩
  · obtain ⟨hd, hrun⟩ := pointer_of_advance (c := c.retime now) hp hle ha
    have hsum : p + (c.targetAt now - p) = c.targetAt now := by omega
    rw [hsum] at hd hrun
    rw [if_neg (Nat.not_le_of_lt ht), hrun, hd]
    have hlen : (c.retime now).length = c.length := rfl
    rw [hlen]
    by_cases hend : c.targetAt now ≤ c.length <;> simp [hend, retime, hr]

/-- A run of ticks sends the clock on to their farthest target. -/
theorem pointer_of_run_ticks : ∀ {times : List Float} {c : Clock} {outcomes : List Outcome},
    Coherent c → c.running = c.pointer.isSome → c.run (ticks times) = .ok (outcomes, d) →
      d.pointer = placed c.length (c.peak times) c.pointer ∧ d.running = d.pointer.isSome
  | [], c, outcomes, hc, hr, h => by
    cases h
    rw [peak_nil, placed_zero]
    exact ⟨rfl, hr⟩
  | now :: later, c, outcomes, hc, hr, h => by
    obtain ⟨o, rest, ho, hrest, -⟩ := run_cons_eq_ok.1 h
    have hcoh := hc.perform ho
    rw [perform_tick_proceed] at ho
    rcases hrun : c.running with _ | _
    · -- A stopped clock has no place here: it met no target, and nothing moves it.
      rw [tick_of_not_running hrun] at ho
      cases ho
      have hnone : c.pointer = none := by
        rw [hrun] at hr
        exact Option.not_isSome_iff_eq_none.1 (by simp [← hr])
      have hd := pointer_of_run_ticks hc hr hrest
      rw [hnone, placed_none] at hd ⊢
      exact hd
    · obtain ⟨hp, hor⟩ := pointer_of_tick hc hrun ho
      obtain ⟨hd, hdr⟩ := pointer_of_run_ticks hcoh hor hrest
      have hlen : o.clock.length = c.length := by
        unfold length
        rw [(moves_of_tick ho).stream_eq]
      refine ⟨?_, hdr⟩
      rw [hd, hp, hlen, placed_placed, peak_cons hrun ho]

theorem stream_of_run_ticks (h : c.run (ticks times) = .ok (outcomes, d)) :
    d.stream = c.stream := by
  refine run_keep (Q := fun op => op.rewinds = false) (P := fun e => e.stream = c.stream)
    (fun e op m o hop ho he => ?_) (ticks_rewinds times) h rfl
  rw [(moves_of_perform hop ho).stream_eq, he]

theorem phase_congr (hs : c.stream = d.stream) (hr : c.running = d.running)
    (hp : c.pointer = d.pointer) : c.phase = d.phase := by
  unfold phase
  rw [hs, hr, hp]

/-- From any state of a running clock, two schedules of ticks that are to reach the same farthest
packet, or that both go past the end, end alike: at one place, in one phase, with one raster, the
same reports in the same order and as many instructions executed. The place is that farthest packet
where it lies ahead, and the clock is off the stream where it lies past the end. With the format's
own constructors both schedules run to their ends. -/
theorem run_ticks_of_peak {t : OpcodeTable} {syncOffsetMs : Float} {ops : List (Op × Moment)}
    (h : (fresh t syncOffsetMs).run ops = .ok (outcomes, c)) (hr : c.running = true)
    (hp : c.pointer = some p) {ts us : List Float}
    (hpeak : c.peak ts = c.peak us ∨ c.length < c.peak ts ∧ c.length < c.peak us) :
    (t.StandardOnly → (∃ first d, c.run (ticks ts) = .ok (first, d))
      ∧ ∃ second e, c.run (ticks us) = .ok (second, e))
    ∧ ∀ first d second e, c.run (ticks ts) = .ok (first, d) → c.run (ticks us) = .ok (second, e) →
      d.pointer = (if c.peak ts ≤ p then some p
          else if c.peak ts ≤ c.length then some (c.peak ts) else none)
        ∧ e.pointer = d.pointer ∧ e.phase = d.phase ∧ e.raster = d.raster
        ∧ second.flatMap Outcome.diagnostics = first.flatMap Outcome.diagnostics
        ∧ (second.map Outcome.executed).sum = (first.map Outcome.executed).sum := by
  refine ⟨fun ht => ⟨run_ok_of_run ht h _, run_ok_of_run ht h _⟩, fun first d second e hd he => ?_⟩
  obtain ⟨hc, -, -⟩ := run_coherent h
  have hrp : c.running = c.pointer.isSome := by rw [hr, hp]; rfl
  obtain ⟨hdp, hdr⟩ := pointer_of_run_ticks hc hrp hd
  obtain ⟨hep, her⟩ := pointer_of_run_ticks hc hrp he
  rw [hp, placed, Option.bind_some] at hdp hep
  have hed : e.pointer = d.pointer := by
    rw [hdp, hep]
    have hle := hc.pointer_le p hp
    rcases hpeak with hpeak | ⟨hts, hus⟩
    · rw [hpeak]
    · have hts' : ¬ c.peak ts ≤ p ∧ ¬ c.peak ts ≤ c.length := by omega
      have hus' : ¬ c.peak us ≤ p ∧ ¬ c.peak us ≤ c.length := by omega
      simp [hts', hus']
  obtain ⟨s, hs⟩ := Option.isSome_iff_exists.1 (hc.stream_of_running hr)
  obtain ⟨_, _, _, _, _, start, -, -, -, -, -, -, hpass⟩ := lastPass_of_run rfl h s hs
  obtain ⟨hraster, htold, hcount⟩ := (hpass.run (ticks_rewinds us) he).eq_of_pointer_eq
    (hpass.run (ticks_rewinds ts) hd) hed
  have hphase : e.phase = d.phase := by
    refine phase_congr ?_ (by rw [her, hdr, hed]) hed
    rw [stream_of_run_ticks he, stream_of_run_ticks hd]
  exact ⟨hdp, hed, hphase, hraster, htold, hcount⟩

/-- Two instructions that one tick plays, or one after another tick that lies before the start. -/
theorem run_ticks_of_peak_early :
    let bytes := [Instruction.memoryPreset 5 0, .borderPreset 3].flatMap fun i =>
      i.packet.bytes.toList
    let ops := [Op.load bytes, .play].map fun op => (op, (⟨0.0, .proceed⟩ : Moment))
    let ts := [7.0]
    let us := [-5.0, 7.0]
    ∃ outcomes c first d second e, (fresh .standard 0.0).run ops = .ok (outcomes, c)
      ∧ c.running = true ∧ c.pointer = some 0 ∧ c.peak ts = 2 ∧ c.peak us = 2
      ∧ c.run (ticks ts) = .ok (first, d) ∧ c.run (ticks us) = .ok (second, e)
      ∧ d.pointer = some 2 ∧ e.pointer = d.pointer ∧ e.phase = d.phase ∧ e.raster = d.raster
      ∧ second.flatMap Outcome.diagnostics = first.flatMap Outcome.diagnostics
      ∧ (second.map Outcome.executed).sum = (first.map Outcome.executed).sum := by
  intro bytes ops ts us
  have h : ∃ outcomes c, (fresh .standard 0.0).run ops = .ok (outcomes, c) ∧ c.running = true
      ∧ c.pointer = some 0 ∧ c.length = 2 ∧ c.targetAt 7.0 = 2 ∧ c.targetAt (-5.0) = 0
      ∧ (c.retime (-5.0)).targetAt 7.0 = 2 := by
    obtain ⟨outcomes, h⟩ := run_load_play .standard 0.0 bytes ⟨0.0, .proceed⟩ ⟨0.0, .proceed⟩
    exact ⟨outcomes, _, h, rfl, rfl, (length_load _ bytes).trans (by decide +kernel),
      by decide +kernel, by decide +kernel, by decide +kernel⟩
  obtain ⟨outcomes, c, h, hr, hp, hl, h7, hm5, h75⟩ := h
  have hts : c.peak ts = 2 := (peak_singleton hr 7.0).trans h7
  have hus : c.peak us = 2 := by
    have htick : c.tick (-5.0) = .ok ⟨c.retime (-5.0), [], 0, none⟩ := by
      rw [tick_of_running hr hp, hm5]
      rfl
    have hlate : (c.retime (-5.0)).peak [7.0] = 2 :=
      (peak_singleton (c := c.retime (-5.0)) hr 7.0).trans h75
    rw [peak_cons hr htick, hm5, hlate]
    rfl
  obtain ⟨hok, hend⟩ := run_ticks_of_peak h hr hp (.inl (hts.trans hus.symm))
  obtain ⟨⟨first, d, hd⟩, second, e, he⟩ := hok OpcodeTable.standardOnly_standard
  obtain ⟨hdp, hrest⟩ := hend first d second e hd he
  rw [hts, hl] at hdp
  exact ⟨outcomes, c, first, d, second, e, h, hr, hp, hts, hus, hd, he, hdp, hrest⟩

end Clock

end CdGraphics
