import CdGraphics.Proofs.Filmed
import Mathlib.Algebra.Order.Floor.Div

/-!
# How many ticks and frames there are

Where time is exact, 300 packets go by in a second, so that a tick is to reach a packet that its
number and the rate of ticks give (`due`). A clock that has ticked so far runs on just where its
target has not passed the end of the stream, and that is before the tick `lastTick`
(`Punctual.running_iff`). At 300 ticks a second or fewer each of them hands over a picture, and at
more only those that have come to another packet: there is one for every tick or for every packet
due, whichever are fewer (`min_due_succ`). The loop for frames, which has no end of its own,
therefore stops after that tick at the latest, whatever number of ticks it may make at most
(`frames_count`).
-/

namespace CdGraphics

open Clock Disk

namespace Command

variable {packets fps count : Nat} {untilMs : Option Float} {outcomes : List Outcome}
  {c : Clock} {o : Outcome}

/-! ## Exact time -/

/-- The packet that a tick is to reach where time is exact. -/
def due (fps tick : Nat) : Nat := 300 * tick / fps

/-- The tick that is the first to leave a stream of so many packets. -/
def lastTick (packets fps : Nat) : Nat := (packets + 1) * fps ⌈/⌉ 300

theorem due_zero (fps : Nat) : due fps 0 = 0 := Nat.zero_div fps

theorem due_mono (fps : Nat) {a b : Nat} (h : a ≤ b) : due fps a ≤ due fps b :=
  Nat.div_le_div_right (Nat.mul_le_mul_left 300 h)

theorem lt_due_iff (hfps : 0 < fps) {tick : Nat} :
    packets < due fps tick ↔ lastTick packets fps ≤ tick := by
  rw [lastTick, ceilDiv_le_iff_le_mul (by decide), ← Nat.le_div_iff_mul_le hfps]
  rfl

theorem due_le_iff (hfps : 0 < fps) {tick : Nat} :
    due fps tick ≤ packets ↔ tick < lastTick packets fps := by
  rw [← Nat.not_lt, lt_due_iff hfps, Nat.not_le]

/-- Ticks at 300 a second or fewer come to another packet each. -/
theorem due_succ_of_le (hfps : 0 < fps) (h : fps ≤ 300) (tick : Nat) :
    tick ≤ due fps tick ∧ due fps tick < due fps (tick + 1) := by
  refine ⟨(Nat.le_div_iff_mul_le hfps).2 ?_, ?_⟩
  · rw [Nat.mul_comm]
    exact Nat.mul_le_mul_right tick h
  · calc due fps tick < (300 * tick + fps) / fps := by
          rw [Nat.add_div_right _ hfps]
          exact Nat.lt_succ_self _
      _ ≤ due fps (tick + 1) := Nat.div_le_div_right (by omega)

/-- Ticks at 300 a second or more come to the next packet at most. -/
theorem due_succ_of_ge (hfps : 0 < fps) (h : 300 ≤ fps) (tick : Nat) :
    due fps tick ≤ tick ∧ due fps (tick + 1) ≤ due fps tick + 1 := by
  constructor
  · refine Nat.div_le_of_le_mul ?_
    exact Nat.mul_le_mul_right tick h
  · calc due fps (tick + 1) ≤ (300 * tick + fps) / fps := Nat.div_le_div_right (by omega)
      _ = due fps tick + 1 := Nat.add_div_right _ hfps

/-- A tick that comes to another packet, and no other, adds to the fewer of the two. -/
theorem min_due_succ (hfps : 0 < fps) (tick : Nat) : min (tick + 1) (due fps (tick + 1))
    = min tick (due fps tick) + if due fps tick < due fps (tick + 1) then 1 else 0 := by
  rcases Nat.le_total fps 300 with h | h
  · obtain ⟨hle, hlt⟩ := due_succ_of_le hfps h tick
    rw [if_pos hlt, Nat.min_eq_left hle, Nat.min_eq_left (by omega)]
  · obtain ⟨hle, hstep⟩ := due_succ_of_ge hfps h tick
    have hmono := due_mono fps (Nat.le_add_right tick 1)
    rw [Nat.min_eq_right hle, Nat.min_eq_right (by omega)]
    split_ifs <;> omega

/-- Up to the last tick there is a picture for every tick, or for every packet and the end. -/
theorem min_due_lastTick (hfps : 0 < fps) (packets : Nat) :
    min (lastTick packets fps) (due fps (lastTick packets fps))
      = min (lastTick packets fps) (packets + 1) := by
  have hlast : packets < due fps (lastTick packets fps) := (lt_due_iff hfps).2 le_rfl
  rcases Nat.le_total fps 300 with h | h
  · -- The last tick's number is at most that of the packet past the end.
    have hle : lastTick packets fps ≤ packets + 1 := by
      rw [lastTick, ceilDiv_le_iff_le_mul (by decide), Nat.mul_comm]
      exact Nat.mul_le_mul_right _ h
    rw [Nat.min_eq_left hle, Nat.min_eq_left (by omega)]
  · obtain ⟨before, hbefore⟩ : ∃ before, lastTick packets fps = before + 1 := by
      refine Nat.exists_eq_add_one.2 (Nat.pos_of_ne_zero fun h0 => ?_)
      rw [h0, due_zero] at hlast
      exact Nat.not_lt_zero _ hlast
    have hle : due fps before ≤ packets := (due_le_iff hfps).2 (by omega)
    have hstep := (due_succ_of_ge hfps h before).2
    rw [← hbefore] at hstep
    have heq : due fps (lastTick packets fps) = packets + 1 := by omega
    rw [heq]

theorem lastTick_le_tickBound (packets fps : Nat) :
    lastTick packets fps ≤ tickBound packets fps := by
  rw [lastTick, Nat.ceilDiv_eq_add_pred_div, tickBound, PacketRate.packetsPerSecond_disc]
  omega

/-- The places to which ticks come that come to another packet; past the end that is the end. -/
def duePlaces (packets fps count : Nat) : List Nat :=
  ((List.range count).filter fun k => due fps k < due fps (k + 1)).map fun k =>
    min (due fps (k + 1)) packets

theorem duePlaces_succ (packets fps count : Nat) : duePlaces packets fps (count + 1)
    = duePlaces packets fps count
      ++ if due fps count < due fps (count + 1) then [min (due fps (count + 1)) packets] else [] := by
  unfold duePlaces
  rw [List.range_succ, List.filter_append, List.map_append, List.filter_singleton]
  split_ifs with h <;> simp [h]

theorem length_duePlaces (hfps : 0 < fps) (packets : Nat) : ∀ count,
    (duePlaces packets fps count).length = min count (due fps count)
  | 0 => (Nat.zero_min _).symm
  | count + 1 => by
    rw [duePlaces_succ, List.length_append, length_duePlaces hfps packets count, min_due_succ hfps]
    split_ifs <;> rfl

/-! ## One tick after the other -/

theorem length_places (n : Nat) (outcomes : List Outcome) :
    (places n outcomes).length = (pictures outcomes).length := by
  simp only [places, pictures, place?, List.length_filterMap_eq_countP, Option.isSome_map]

/-- How far a clock has come in a stream of so many packets after ticks that reached what was due
at each, and of which places these handed over pictures. -/
structure Punctual (packets fps count : Nat) (outcomes : List Outcome) (c : Clock) : Prop where
  steady : Steady fps count c
  pointer : c.pointer = placed packets (due fps count) (some 0)
  running : c.running = c.pointer.isSome
  count_le : count ≤ lastTick packets fps
  places_eq : places packets outcomes = duePlaces packets fps count

theorem Punctual.running_iff (hfps : 0 < fps) (h : Punctual packets fps count outcomes c) :
    c.running = true ↔ count < lastTick packets fps := by
  rw [h.running, h.pointer, isSome_placed (Nat.zero_le _), due_le_iff hfps]

theorem Punctual.written (hfps : 0 < fps) (h : Punctual packets fps count outcomes c) :
    (pictures outcomes).length = min count (due fps count) := by
  rw [← length_places packets, h.places_eq, length_duePlaces hfps]

theorem Punctual.written_lt (hfps : 0 < fps) (h : Punctual packets fps count outcomes c)
    (hr : c.running = true) :
    (pictures outcomes).length < min (lastTick packets fps) (packets + 1) := by
  have hlt := (h.running_iff hfps).1 hr
  have hdue := (due_le_iff hfps).2 hlt
  rw [h.written hfps]
  omega

theorem Punctual.tick (hfps : 0 < fps) (h : Punctual packets fps count outcomes c) (hc : Coherent c)
    (hr : c.running = true) (hlength : c.length = packets) (hrate : c.rate = PacketRate.disc)
    (hexact : PacketRate.disc.packetsAt (accrued fps (count + 1)) = due fps (count + 1))
    (ho : c.tick (tickTime fps (count + 1)) = .ok o) :
    Punctual packets fps (count + 1) (outcomes ++ [o]) o.clock := by
  have htarget : c.targetAt (tickTime fps (count + 1)) = due fps (count + 1) :=
    (h.steady.targetAt_eq hrate).trans hexact
  have hlt : count < lastTick packets fps := (h.running_iff hfps).1 hr
  obtain ⟨p, hp⟩ := Option.isSome_iff_exists.1 (hc.pointer_of_running hr)
  have hdue : p = due fps count := by
    have hat := getD_placed packets (due fps count)
    rw [← h.pointer, hp, Option.getD_some, Nat.min_eq_left ((due_le_iff hfps).2 hlt)] at hat
    exact hat
  obtain ⟨hpointer, hrunning⟩ := pointer_of_tick hc hr ho
  rw [htarget, hlength, h.pointer, placed_placed,
    Nat.max_eq_right (due_mono fps (Nat.le_add_right count 1))] at hpointer
  refine ⟨h.steady.tick hc hr ho, hpointer, hrunning, hlt, ?_⟩
  rw [duePlaces_succ, ← h.places_eq, ← getD_placed, ← hpointer, ← hdue, ← htarget]
  rcases tick_cases hr hp ho with ⟨hle, rfl⟩ | ⟨hpast, -, picture, hf, -⟩
  · rw [if_neg (Nat.not_lt_of_le hle), List.append_nil]
    exact places_of_no_frame outcomes rfl
  · rw [if_pos hpast]
    exact places_of_frame outcomes hf

variable {settings : Settings} {bytes : List UInt8}

theorem punctual_startPlayback (settings : Settings) (bytes : List UInt8) (fps : Nat) :
    Punctual (startPlayback settings bytes).1.length fps 0 [] (startPlayback settings bytes).1 where
  steady := ⟨rfl, rfl, rfl⟩
  pointer := by
    rw [due_zero, placed_zero]
    rfl
  running := rfl
  count_le := Nat.zero_le _
  places_eq := rfl

/-- What one tick keeps, so many ticks of a running clock keep. -/
theorem punctual_of_ticks (hfps : 0 < fps) : ∀ {count : Nat} {outcomes : List Outcome} {c : Clock},
    (startPlayback settings bytes).1.run (ticks (tickTimes fps count)) = .ok (outcomes, c) →
    (∀ o ∈ outcomes.dropLast, o.clock.running = true) →
    (∀ tick, 0 < tick → tick ≤ lastTick (startPlayback settings bytes).1.length fps →
      tick ≤ count → PacketRate.disc.packetsAt (accrued fps tick) = due fps tick) →
    Punctual (startPlayback settings bytes).1.length fps count outcomes c
  | 0, outcomes, c, h, _, _ => by
    cases h
    exact punctual_startPlayback settings bytes fps
  | count + 1, outcomes, c, h, going, hexact => by
    obtain ⟨first, e, o, hfirst, hgoing, he, ho, rfl, rfl⟩ := run_ticks_succ h going
    have hpunctual := punctual_of_ticks hfps hfirst hgoing
      (fun tick h0 hlast hle => hexact tick h0 hlast (Nat.le_succ_of_le hle))
    have hlt := (hpunctual.running_iff hfps).1 he.running
    exact hpunctual.tick hfps he.coherent he.running he.length_eq he.rate
      (hexact (count + 1) (Nat.succ_pos count) hlt le_rfl) ho

/-! ## The loop -/

/-- So many ticks come within the limit. -/
def Timely (untilMs : Option Float) (fps count : Nat) : Prop :=
  ∀ tick, 1 ≤ tick → tick ≤ count → isPast untilMs (tickTime fps tick) = false

theorem timely_none (fps count : Nat) : Timely none fps count := fun _ _ _ => rfl

theorem Timely.le_of_isPast (h : Timely untilMs fps count) {tick : Nat}
    (hpast : isPast untilMs (tickTime fps (tick + 1)) = true) : count ≤ tick := by
  by_contra hlt
  rw [h (tick + 1) (Nat.succ_pos _) (by omega)] at hpast
  cases hpast

/-- How many ticks of a stream of so many packets there are, and how many pictures, where none of
these is refused. -/
structure Counted (packets fps : Nat) (untilMs : Option Float) (outcomes : List Outcome)
    (c : Clock) : Prop where
  /-- The first tick beyond the limit is not made. -/
  limited : ∀ within, Timely untilMs fps within →
    isPast untilMs (tickTime fps (within + 1)) = true →
    outcomes.length = min (lastTick packets fps) within
  unlimited : Timely untilMs fps (lastTick packets fps) → outcomes.length = lastTick packets fps
  phase : c.phase = if outcomes.length = lastTick packets fps then .finished else .running
  written : (pictures outcomes).length = min outcomes.length (due fps outcomes.length)
  written_unlimited : Timely untilMs fps (lastTick packets fps) →
    (pictures outcomes).length = min (lastTick packets fps) (packets + 1)

theorem Punctual.phase_eq (hfps : 0 < fps) (h : Punctual packets fps count outcomes c)
    (hs : c.stream.isSome = true) :
    c.phase = if count = lastTick packets fps then .finished else .running := by
  have hiff := h.running_iff hfps
  have hle := h.count_le
  split_ifs with hlast
  · have hr : c.running = false := by
      rw [← Bool.not_eq_true, hiff]
      omega
    refine phase_eq_finished_iff.2 ⟨hs, hr, ?_⟩
    rw [← Option.not_isSome_iff_eq_none, ← h.running, hr]
    exact Bool.false_ne_true
  · have hr : c.running = true := hiff.2 (by omega)
    obtain ⟨s, hs⟩ := Option.isSome_iff_exists.1 hs
    unfold phase
    rw [hs, hr]

theorem Punctual.counted (hfps : 0 < fps) (h : Punctual packets fps outcomes.length outcomes c)
    (hs : c.stream.isSome = true) (htimely : Timely untilMs fps outcomes.length)
    (hhalted : Halted fps untilMs outcomes c) : Counted packets fps untilMs outcomes c := by
  have hle := h.count_le
  -- Ticks that may not go on have come to the last one or to the limit.
  have hend : outcomes.length = lastTick packets fps
      ∨ isPast untilMs (tickTime fps (outcomes.length + 1)) = true := by
    rcases hhalted with hr | hpast
    · left
      rw [← Bool.not_eq_true, h.running_iff hfps] at hr
      omega
    · exact .inr hpast
  have hunlimited : Timely untilMs fps (lastTick packets fps) →
      outcomes.length = lastTick packets fps := by
    intro hall
    rcases hend with heq | hpast
    · exact heq
    · exact Nat.le_antisymm hle (hall.le_of_isPast hpast)
  refine ⟨fun within hwithin hbeyond => ?_, hunlimited, h.phase_eq hfps hs,
    h.written hfps, fun hall => ?_⟩
  · have hlimit := htimely.le_of_isPast hbeyond
    rcases hend with heq | hpast
    · omega
    · have hreached := hwithin.le_of_isPast hpast
      omega
  · rw [h.written hfps, hunlimited hall, min_due_lastTick hfps]

theorem Punctual.places_of_halted (hfps : 0 < fps)
    (h : Punctual packets fps outcomes.length outcomes c) (hs : c.stream.isSome = true)
    (hhalted : Halted fps none outcomes c) :
    places packets outcomes = duePlaces packets fps (lastTick packets fps)
      ∧ c.phase = .finished := by
  have hcounted := h.counted hfps hs (timely_none _ _) hhalted
  have hlast := hcounted.unlimited (timely_none _ _)
  exact ⟨by rw [h.places_eq, hlast], by rw [hcounted.phase, if_pos hlast]⟩

theorem Punctual.written_of_le (hfps : 0 < fps) (h300 : fps ≤ 300)
    (h : Punctual packets fps count outcomes c) : (pictures outcomes).length = count := by
  rw [h.written hfps]
  exact Nat.min_eq_left (due_succ_of_le hfps h300 count).1

variable {fs : FileSystem (StateM Disk)} {outDir : String} {d d₀ d' : Disk} {input : Input}
  {started : List Notice}

/-- The targets of the ticks that a limit lets through are what exact time gives. -/
def Exact (packets fps : Nat) (untilMs : Option Float) : Prop :=
  ∀ tick, 0 < tick → tick ≤ lastTick packets fps → isPast untilMs (tickTime fps tick) = false →
    PacketRate.disc.packetsAt (accrued fps tick) = due fps tick

theorem Filmed.punctual (hfps : 0 < fps)
    (hexact : Exact (startPlayback settings bytes).1.length fps untilMs)
    (h : Filmed (startPlayback settings bytes).1 fps untilMs outDir d outcomes c d') :
    Punctual (startPlayback settings bytes).1.length fps outcomes.length outcomes c :=
  punctual_of_ticks hfps h.ticked h.going fun tick h0 hlast hle =>
    hexact tick h0 hlast (h.timely tick h0 hle)

/-- So the bound on the loop is enough. -/
theorem Filmed.not_exhausted (hfps : 0 < fps)
    (hexact : Exact (startPlayback settings bytes).1.length fps untilMs)
    (h : Filmed (startPlayback settings bytes).1 fps untilMs outDir d outcomes c d') :
    ¬ Exhausted (startPlayback settings bytes).1.length fps untilMs outcomes c := by
  intro hexhausted
  have hlt := ((h.punctual hfps hexact).running_iff hfps).1 hexhausted.running
  have hle := lastTick_le_tickBound (startPlayback settings bytes).1.length fps
  rw [hexhausted.length_eq] at hlt
  omega

theorem Filmed.isSome_stream
    (h : Filmed (startPlayback settings bytes).1 fps untilMs outDir d outcomes c d') :
    c.stream.isSome = true := by
  rw [stream_of_run_ticks h.ticked]
  rfl

/-- Once there is a bound for all ticks, a greater one makes no difference. -/
theorem playThrough_bound (hfs : fs.Faithful) (hfps : 0 < fps)
    (hexact : Exact (startPlayback settings bytes).1.length fps untilMs) (d : Disk) {bound : Nat}
    (hbound : lastTick (startPlayback settings bytes).1.length fps ≤ bound) :
    (playThrough fs settings bytes outDir fps untilMs bound).run d
      = (playThrough fs settings bytes outDir fps untilMs
          (lastTick (startPlayback settings bytes).1.length fps)).run d := by
  obtain ⟨outcomes, c, d₁, hfilmed, hend⟩ := Filmed.play hfs
    (playable_startPlayback settings bytes) (startPlayback settings bytes).2
    (lastTick (startPlayback settings bytes).1.length fps)
    (filmed_nil (startPlayback settings bytes).1 fps untilMs outDir (.refl d))
  simp only [playOn_nil, List.length_nil, Nat.zero_add] at hend
  rcases hend with ⟨-, hplay⟩ | ⟨hgoing, hlength, -⟩ | ⟨o, failure, d', -, hplay⟩
  · exact (hplay bound hbound).trans (hplay _ le_rfl).symm
  · -- After the last tick the clock has stopped.
    have hr := (not_halted_iff.1 hgoing).1
    rw [(hfilmed.punctual hfps hexact).running_iff hfps, hlength] at hr
    exact absurd hr (Nat.lt_irrefl _)
  · exact (hplay bound hbound).trans (hplay _ le_rfl).symm

/-! ## The command -/

theorem length_startPlayback_eq (settings : Settings) (bytes : List UInt8) :
    (startPlayback settings bytes).1.length = bytes.length / packetSize := by
  rw [length_startPlayback, OpcodeTable.length_decodeStream]

/-- The command for frames, with an input that it can read and a directory for its output, where
the targets of its ticks are exact: it fails by a picture that is refused, or it ticks up to the
last tick or to the limit, whichever comes first, and writes a file for every tick or for every
packet due by then, whichever are fewer. No greater bound on its ticks would make a difference. -/
theorem frames_count (hfs : fs.Faithful) (input : Input) (outDir : String) {fps : Nat}
    (hfps : 0 < fps) (untilMs : Option Float) (d : Disk)
    (hread : ((readInput fs input).run d).1 = .ok (bytes, settings))
    (hmade : ((makeOutputDirectory fs outDir).run d).1 = .ok ())
    (hexact : Exact (bytes.length / packetSize) fps untilMs) :
    let packets := bytes.length / packetSize
    (∃ t d' outcomes c d₁, (frames fs input outDir fps untilMs).run d = (t, d')
      ∧ Filmed (startPlayback settings bytes).1 fps untilMs outDir d outcomes c d₁
      ∧ Ended fs settings bytes outDir fps untilMs outcomes c d₁ t d'
      ∧ (t.failure = none ∧ Halted fps untilMs outcomes c ∧ Counted packets fps untilMs outcomes c
        ∨ ∃ o failure, Refused fs fps untilMs outDir outcomes c d₁ o failure d'
          ∧ t.failure = some failure))
    ∧ ∀ bound, lastTick packets fps ≤ bound → ∀ d₀,
      (playFrames fs outDir (1000.0 / Float.ofNat fps) untilMs bound 1
        ⟨(startPlayback settings bytes).1, 0, (startPlayback settings bytes).2, none⟩).run d₀
      = (playFrames fs outDir (1000.0 / Float.ofNat fps) untilMs (tickBound packets fps) 1
        ⟨(startPlayback settings bytes).1, 0, (startPlayback settings bytes).2, none⟩).run d₀ := by
  rw [← length_startPlayback_eq settings bytes] at hexact ⊢
  constructor
  · obtain ⟨t, d', outcomes, c, d₁, hrun, hfilmed, hended, -⟩ := exists_filmed hfs fps untilMs
      hread hmade
    refine ⟨t, d', outcomes, c, d₁, hrun, hfilmed, hended, ?_⟩
    cases hended with
    | whole hhalted =>
      exact .inl ⟨rfl, hhalted, (hfilmed.punctual hfps hexact).counted hfps hfilmed.isSome_stream
        hfilmed.timely hhalted⟩
    | exhausted hexhausted => exact absurd hexhausted (hfilmed.not_exhausted hfps hexact)
    | refused hrefused => exact .inr ⟨_, _, hrefused, rfl⟩
  · intro bound hbound d₀
    exact (playThrough_bound hfs hfps hexact d₀ hbound).trans
      (playThrough_bound hfs hfps hexact d₀ (lastTick_le_tickBound _ fps)).symm

theorem atRoot_framePath : ∀ k < 3, AtRoot (framePath "/" k) (frameName k) := by
  intro k hk
  obtain rfl | rfl | rfl : k = 0 ∨ k = 1 ∨ k = 2 := by omega
  all_goals constructor <;> decide +kernel

/-- Two packets at a thousand ticks a second, which come to another packet every fourth tick or
so, and pictures that are written over files. -/
theorem frames_count_thousand :
    let instructions := [Instruction.memoryPreset 5 0, .borderPreset 3]
    let bytes := instructions.flatMap fun i => i.packet.bytes.toList
    let d : Disk := ⟨(["in.cdg"], .file bytes)
      :: (List.range 3).map fun k => ([frameName k], .file []), []⟩
    ∃ t d' outcomes c, (frames Disk.fileSystem ⟨"in.cdg", none⟩ "/" 1000 none).run d = (t, d')
      ∧ Filmed (startPlayback .standard bytes).1 1000 none "/" d outcomes c d'
      ∧ t.failure = none ∧ t.remarks = "wrote 3 frames to /\n"
      ∧ outcomes.length = 10 ∧ (pictures outcomes).length = 3 ∧ c.phase = .finished := by
  intro instructions bytes d
  have hread : ((readInput Disk.fileSystem ⟨"in.cdg", none⟩).run d).1 = .ok (bytes, .standard) :=
    readInput_of_readFile (by decide +kernel)
  have hlast : lastTick 2 1000 = 10 := by decide +kernel
  have hpackets : bytes.length / packetSize = 2 := by decide +kernel
  have hexact : Exact (bytes.length / packetSize) 1000 none := by
    rw [hpackets]
    intro tick _ hle _
    rw [hlast] at hle
    have hall : ∀ tick < 11, PacketRate.disc.packetsAt (accrued 1000 tick) = due 1000 tick := by
      decide +kernel
    exact hall tick (Nat.lt_succ_of_le hle)
  obtain ⟨⟨t, d', outcomes, c, d₁, hrun, hfilmed, hended, hcounted⟩, -⟩ := frames_count
    Disk.faithful_fileSystem ⟨"in.cdg", none⟩ "/" (by decide) none d hread rfl hexact
  rcases hcounted with ⟨hfailure, -, hcount⟩ | ⟨o, failure, hrefused, -⟩
  · rw [hpackets] at hcount
    have hten := hcount.unlimited (timely_none _ _)
    have hthree := hcount.written_unlimited (timely_none _ _)
    have hphase := hcount.phase
    rw [hlast] at hten hthree
    rw [hlast, if_pos hten] at hphase
    cases hended with
    | whole | exhausted =>
      refine ⟨_, _, outcomes, c, hrun, hfilmed, rfl, ?_, hten, hthree, hphase⟩
      rw [hthree]
      rfl
    | refused => cases hfailure
  · -- The files are there from the start, so that no picture is refused.
    have hpunctual := hfilmed.punctual (by decide) (by rwa [length_startPlayback_eq])
    rw [length_startPlayback_eq, hpackets] at hpunctual
    have hlt := hpunctual.written_lt (by decide) hrefused.running
    have hget : ∀ k < 3, d.get? [frameName k] = some (.file []) := by decide +kernel
    have hle := hrefused.le_length hfilmed.stored atRoot_framePath
      fun k hk => ⟨_, hget k hk, Entry.noConfusion⟩
    rw [hlast] at hlt
    exact absurd hlt (Nat.not_lt_of_le hle)

end Command

end CdGraphics
