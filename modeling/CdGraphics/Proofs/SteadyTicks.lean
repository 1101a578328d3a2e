import CdGraphics.Command.Run
import CdGraphics.Proofs.Delivered
import CdGraphics.Proofs.Timing

/-!
# Ticks at a steady rate

The command for frames ticks a clock that has just been started so many times a second. Where each
tick leads depends on the position to which the times between them add up (`steady_of_ticks`), and
for as long as the clock runs no tick was to reach past the end of the stream
(`packetsAt_le_of_running`).
-/

namespace CdGraphics

open Clock

namespace Clock

/-- A clock that was sent on to a packet is on the stream just where the packet is. -/
theorem isSome_placed {n p target : Nat} (hp : p ≤ n) :
    (placed n target (some p)).isSome = true ↔ target ≤ n := by
  unfold placed
  rw [Option.bind_some]
  split_ifs with h h' <;> simp <;> omega

theorem getD_placed (n target : Nat) : (placed n target (some 0)).getD n = min target n := by
  unfold placed
  rw [Option.bind_some]
  split_ifs with h0 hn
  · rw [Nat.le_zero.1 h0, Nat.zero_min]
    rfl
  · exact (Nat.min_eq_left hn).symm
  · exact (Nat.min_eq_right (Nat.le_of_lt (Nat.lt_of_not_le hn))).symm

end Clock

namespace Command

def tickTime (fps tick : Nat) : Float := Float.ofNat tick * (1000.0 / Float.ofNat fps)

def tickTimes (fps count : Nat) : List Float := (List.range count).map fun k => tickTime fps (k + 1)

theorem tickTimes_succ (fps count : Nat) :
    tickTimes fps (count + 1) = tickTimes fps count ++ [tickTime fps (count + 1)] := by
  simp [tickTimes, List.range_succ]

/-! ## The start -/

section Start

variable (settings : Settings) (bytes : List UInt8)

theorem pass_startPlayback :
    Pass .blank ((OpcodeTable.ofSettings settings).decodeStream bytes).1.toArray [] 0
      (startPlayback settings bytes).1 :=
  Pass.of_rewound (c := (startPlayback settings bytes).1) rfl rfl

theorem coherent_startPlayback : Coherent (startPlayback settings bytes).1 := by
  obtain ⟨_, h⟩ := run_load_play (.ofSettings settings) settings.syncOffsetMs bytes
    ⟨0.0, .proceed⟩ ⟨0.0, .proceed⟩
  exact (run_coherent h).1

theorem playable_startPlayback : Playable (startPlayback settings bytes).1 := by
  have ht := (OpcodeTable.Base.ofSettings settings).standardOnly
  have h := (playable_fresh ht settings.syncOffsetMs).load bytes
  exact ⟨h.table, h.raster, h.stream⟩

theorem length_startPlayback : (startPlayback settings bytes).1.length
    = ((OpcodeTable.ofSettings settings).decodeStream bytes).1.length := by
  show ((OpcodeTable.ofSettings settings).decodeStream bytes).1.toArray.size = _
  rw [List.size_toArray]

end Start

/-! ## One tick after the other -/

/-- The start of playback and the times of its ticks. -/
def instant (fps : Nat) : Nat → Float
  | 0 => 0.0
  | tick + 1 => tickTime fps (tick + 1)

/-- The position to which the times between so many ticks add up. -/
def accrued (fps : Nat) : Nat → Float
  | 0 => 0.0
  | tick + 1 => accrued fps tick + (instant fps (tick + 1) - instant fps tick)

/-- What so many ticks make of the times of a clock that is never synced. -/
structure Steady (fps count : Nat) (c : Clock) : Prop where
  positionMs : c.positionMs = accrued fps count
  lastTickMs : c.lastTickMs = instant fps count
  anchor : c.anchor = none

variable {settings : Settings} {bytes : List UInt8} {fps count : Nat} {outcomes : List Outcome}
  {c : Clock} {o : Outcome}

theorem Steady.positionAt_eq (h : Steady fps count c) :
    c.positionAt (tickTime fps (count + 1)) = accrued fps (count + 1) := by
  unfold positionAt
  rw [h.anchor, h.positionMs, h.lastTickMs]
  rfl

theorem Steady.targetAt_eq (h : Steady fps count c) (hrate : c.rate = PacketRate.disc) :
    c.targetAt (tickTime fps (count + 1)) = PacketRate.disc.packetsAt (accrued fps (count + 1)) := by
  rw [targetAt, hrate, h.positionAt_eq]

theorem Steady.tick (h : Steady fps count c) (hc : Coherent c) (hr : c.running = true)
    (ho : c.tick (tickTime fps (count + 1)) = .ok o) : Steady fps (count + 1) o.clock := by
  obtain ⟨p, hp⟩ := Option.isSome_iff_exists.1 (hc.pointer_of_running hr)
  have hk := keepsTime_of_tick hr hp ho
  exact ⟨hk.positionMs_eq.trans h.positionAt_eq, hk.lastTickMs_eq, hk.anchor_eq_none h.anchor⟩

/-- A clock of the start of playback that still runs before its next tick. -/
structure Underway (settings : Settings) (bytes : List UInt8) (e : Clock) : Prop where
  running : e.running = true
  coherent : Coherent e
  rate : e.rate = PacketRate.disc
  length_eq : e.length = (startPlayback settings bytes).1.length

theorem run_ticks_succ (h : (startPlayback settings bytes).1.run (ticks (tickTimes fps (count + 1)))
      = .ok (outcomes, c)) (going : ∀ o ∈ outcomes.dropLast, o.clock.running = true) :
    ∃ first e o, (startPlayback settings bytes).1.run (ticks (tickTimes fps count)) = .ok (first, e)
      ∧ (∀ x ∈ first.dropLast, x.clock.running = true) ∧ Underway settings bytes e
      ∧ e.tick (tickTime fps (count + 1)) = .ok o ∧ outcomes = first ++ [o] ∧ c = o.clock := by
  rw [tickTimes_succ, ticks, List.map_append] at h
  obtain ⟨first, e, o, hfirst, ho, rfl, rfl⟩ := run_concat_eq_ok.1 h
  rw [perform_tick_proceed] at ho
  rw [List.dropLast_concat] at going
  have hlength : e.length = (startPlayback settings bytes).1.length := by
    unfold length
    rw [stream_of_run_ticks hfirst]
  exact ⟨first, e, o, hfirst, fun x hx => going x ((List.dropLast_sublist _).subset hx),
    ⟨running_of_run rfl hfirst going, (coherent_startPlayback settings bytes).run hfirst,
      (setup_of_run hfirst).2, hlength⟩, ho, rfl, rfl⟩

theorem steady_of_ticks : ∀ {count : Nat} {outcomes : List Outcome} {c : Clock},
    (startPlayback settings bytes).1.run (ticks (tickTimes fps count)) = .ok (outcomes, c) →
    (∀ o ∈ outcomes.dropLast, o.clock.running = true) → Steady fps count c
  | 0, outcomes, c, h, _ => by
    cases h
    exact ⟨rfl, rfl, rfl⟩
  | count + 1, outcomes, c, h, going => by
    obtain ⟨first, e, o, hfirst, hgoing, he, ho, rfl, rfl⟩ := run_ticks_succ h going
    exact (steady_of_ticks hfirst hgoing).tick he.coherent he.running ho

theorem packetsAt_accrued_zero (fps : Nat) : PacketRate.disc.packetsAt (accrued fps 0) = 0 := by
  show PacketRate.disc.packetsAt 0.0 = 0
  decide +kernel

/-- A clock that still runs was never to reach past the end. -/
theorem packetsAt_le_of_running : ∀ {count : Nat} {outcomes : List Outcome} {c : Clock},
    (startPlayback settings bytes).1.run (ticks (tickTimes fps count)) = .ok (outcomes, c) →
    (∀ o ∈ outcomes.dropLast, o.clock.running = true) → c.running = true →
    ∀ tick ≤ count, PacketRate.disc.packetsAt (accrued fps tick)
      ≤ (startPlayback settings bytes).1.length
  | 0, outcomes, c, _, _, _, tick, htick => by
    rw [Nat.le_zero.1 htick, packetsAt_accrued_zero]
    exact Nat.zero_le _
  | count + 1, outcomes, c, h, going, hr, tick, htick => by
    obtain ⟨first, e, o, hfirst, hgoing, he, ho, rfl, rfl⟩ := run_ticks_succ h going
    rcases Nat.lt_or_eq_of_le htick with hlt | rfl
    · exact packetsAt_le_of_running hfirst hgoing he.running tick (Nat.le_of_lt_succ hlt)
    · obtain ⟨p, hp⟩ := Option.isSome_iff_exists.1 (he.coherent.pointer_of_running he.running)
      obtain ⟨hpointer, hrunning⟩ := pointer_of_tick he.coherent he.running ho
      rw [hr, hpointer, hp, (steady_of_ticks hfirst hgoing).targetAt_eq he.rate] at hrunning
      rw [← he.length_eq]
      exact (isSome_placed (he.coherent.pointer_le p hp)).1 hrunning.symm

end Command

end CdGraphics
