import CdGraphics.Proofs.Filmed
import CdGraphics.Proofs.FromZero

/-!
# One frame and all frames

The command for one frame jumps to its time in a single tick, the command for frames gets there in
many. The position that these add up to is the time of the last of them, provided that adding a
difference back gives the later time (`arrived_of_ticks`), and the place in the stream is then the
same as after the jump. So is the raster, since both are in one pass (`frame_eq_frames`).
-/

namespace CdGraphics

open Clock Disk

namespace Clock

variable {c d : Clock} {ops : List (Op × Moment)} {outcomes : List Outcome}

theorem run_take : ∀ {ops : List (Op × Moment)} {c : Clock} {outcomes : List Outcome},
    c.run ops = .ok (outcomes, d) → ∀ (k : Nat) (hk : k < outcomes.length),
      c.run (ops.take (k + 1)) = .ok (outcomes.take (k + 1), outcomes[k].clock)
  | [], c, outcomes, h, k, hk => by
    cases h
    cases hk
  | (op, m) :: rest, c, outcomes, h, k, hk => by
    obtain ⟨o, later, ho, hrest, rfl⟩ := run_cons_eq_ok.1 h
    cases k with
    | zero => exact run_cons_eq_ok.2 ⟨o, [], ho, by simp [run_nil], by simp⟩
    | succ k =>
      have hk' : k < later.length := Nat.lt_of_succ_lt_succ hk
      exact run_cons_eq_ok.2 ⟨o, later.take (k + 1), ho, run_take hrest k hk', rfl⟩

/-- The clock has just ticked at a time that is its position too, and nothing else sets it. -/
structure Arrived (c : Clock) (time : Float) : Prop where
  positionMs : c.positionMs = time
  lastTickMs : c.lastTickMs = time
  anchor : c.anchor = none

theorem Arrived.positionAt_eq {a b : Float} (h : Arrived c a) (hab : a + (b - a) = b) :
    c.positionAt b = b := by
  unfold positionAt
  rw [h.anchor, h.positionMs, h.lastTickMs, hab]

theorem Arrived.tick {a b : Float} {o : Outcome} (h : Arrived c a) (hab : a + (b - a) = b)
    (hc : Coherent c) (hr : c.running = true) (ho : c.tick b = .ok o) : Arrived o.clock b := by
  obtain ⟨p, hp⟩ := Option.isSome_iff_exists.1 (hc.pointer_of_running hr)
  have hk := keepsTime_of_tick hr hp ho
  exact ⟨hk.positionMs_eq.trans (h.positionAt_eq hab), hk.lastTickMs_eq, hk.anchor_eq_none h.anchor⟩

end Clock

namespace Command

variable {settings : Settings} {bytes : List UInt8} {fps : Nat} {outcomes : List Outcome}
  {c : Clock}

theorem arrived_startPlayback (settings : Settings) (bytes : List UInt8) :
    Arrived (startPlayback settings bytes).1 0.0 := ⟨rfl, rfl, rfl⟩

/-- Ticks whose times add up, each of a running clock, arrive at the last of them. -/
theorem arrived_of_ticks : ∀ {count : Nat} {outcomes : List Outcome} {c : Clock},
    (startPlayback settings bytes).1.run (ticks (tickTimes fps count)) = .ok (outcomes, c) →
    (∀ o ∈ outcomes.dropLast, o.clock.running = true) →
    (∀ tick < count,
      instant fps tick + (instant fps (tick + 1) - instant fps tick) = instant fps (tick + 1)) →
    (∀ tick < count, PacketRate.disc.packetsAt (instant fps tick)
      ≤ PacketRate.disc.packetsAt (instant fps (tick + 1))) →
    Arrived c (instant fps count)
      ∧ c.pointer = placed (startPlayback settings bytes).1.length
        (PacketRate.disc.packetsAt (instant fps count)) (some 0)
  | 0, outcomes, c, h, _, _, _ => by
    cases h
    refine ⟨arrived_startPlayback settings bytes, ?_⟩
    have hzero : PacketRate.disc.packetsAt (instant fps 0) = 0 := by
      show PacketRate.disc.packetsAt 0.0 = 0
      decide +kernel
    rw [hzero, placed_zero]
    rfl
  | count + 1, outcomes, c, h, going, hadd, hmono => by
    obtain ⟨first, e, o, hfirst, hgoing, he, ho, rfl, rfl⟩ := run_ticks_succ h going
    obtain ⟨harrived, hpointer⟩ := arrived_of_ticks hfirst hgoing
      (fun tick ht => hadd tick (Nat.lt_succ_of_lt ht))
      (fun tick ht => hmono tick (Nat.lt_succ_of_lt ht))
    have hstep := hadd count (Nat.lt_succ_self count)
    refine ⟨harrived.tick hstep he.coherent he.running ho, ?_⟩
    have htarget : e.targetAt (tickTime fps (count + 1))
        = PacketRate.disc.packetsAt (instant fps (count + 1)) := by
      unfold targetAt
      rw [he.rate]
      exact congrArg _ (harrived.positionAt_eq hstep)
    -- The earlier ticks have come no further than this one's target, so that it alone counts.
    rw [(pointer_of_tick he.coherent he.running ho).1, htarget, he.length_eq, hpointer,
      placed_placed, Nat.max_eq_right (hmono count (Nat.lt_succ_self count))]

/-! ## One frame -/

variable {fs : FileSystem (StateM Disk)} {input : Input} {d d' : Disk} {atMs : Float}

/-- The single tick of the command for one frame: where it leads and what the picture shows. -/
structure Jump (settings : Settings) (bytes : List UInt8) (atMs : Float) (o : Outcome)
    (picture : Frame) : Prop where
  ticked : (startPlayback settings bytes).1.tick atMs = .ok o
  positionMs : o.clock.positionMs = 0.0 + (atMs - 0.0)
  pointer : o.clock.pointer = placed (startPlayback settings bytes).1.length
    (PacketRate.disc.packetsAt (0.0 + (atMs - 0.0))) (some 0)
  composed : o.clock.raster.compose = .ok picture
  pictured : ∃ notices, pictureAt settings bytes atMs = .ok (picture, notices)

theorem exists_jump (settings : Settings) (bytes : List UInt8) (atMs : Float) :
    ∃ o picture, Jump settings bytes atMs o picture := by
  have hplayable := playable_startPlayback settings bytes
  have hc := coherent_startPlayback settings bytes
  obtain ⟨o, ho⟩ := hplayable.tick_ok atMs
  have hperform := (perform_tick_proceed _ atMs atMs).trans ho
  obtain ⟨picture, hpicture⟩ := (hplayable.perform hperform).raster.compose
  have hk := keepsTime_of_tick (p := 0) rfl rfl ho
  refine ⟨o, picture, ho, hk.positionMs_eq, (pointer_of_tick hc rfl ho).1, hpicture, ?_⟩
  exact ⟨_, bind_eq_ok.2 ⟨o, ho, bind_eq_ok.2 ⟨picture, hpicture, rfl⟩⟩⟩

theorem Jump.shows {o : Outcome} {picture : Frame} (h : Jump settings bytes atMs o picture) :
    Shows ((OpcodeTable.ofSettings settings).decodeStream bytes).1
      (min (PacketRate.disc.packetsAt o.clock.positionMs)
        ((OpcodeTable.ofSettings settings).decodeStream bytes).1.length) picture := by
  have hpass := (pass_startPlayback settings bytes).moves (moves_of_tick h.ticked)
  have hdrawn := hpass.drawn
  rw [h.pointer, List.size_toArray, ← length_startPlayback, getD_placed] at hdrawn
  rw [h.positionMs, ← length_startPlayback]
  exact ⟨_, _, hdrawn, h.composed⟩

/-- The offset of syncs changes nothing, since playback is never synced. -/
theorem Jump.syncOffset {o : Outcome} {picture : Frame} (h : Jump settings bytes atMs o picture)
    (offsetMs : Float) :
    ∃ o, Jump { settings with syncOffsetMs := offsetMs } bytes atMs o picture := by
  obtain ⟨o', picture', h'⟩ := exists_jump { settings with syncOffsetMs := offsetMs } bytes atMs
  have hshows := h'.shows
  rw [h'.positionMs, ← h.positionMs] at hshows
  obtain rfl := h.shows.unique hshows
  exact ⟨o', h'⟩

/-- The command for one frame writes the picture of its time, or fails by the write. -/
theorem frame_of_read (hfs : fs.Faithful)
    (hread : ((readInput fs input).run d).1 = .ok (bytes, settings))
    (hfinite : atMs.isFinite = true) (out : String) {o : Outcome} {picture : Frame}
    (h : Jump settings bytes atMs o picture) :
    ∃ t d', (frame fs input atMs out).run d = (t, d')
      ∧ (t.failure = none ∧ d'.picture? out = some picture
        ∨ Grows d d' ∧ ∃ failure, t.failure = some failure
          ∧ (writePng fs out picture).run d = (.error failure, d')) := by
  obtain ⟨notices, hpicture⟩ := h.pictured
  rw [frame, run_bind, readInput_run_snd hfs, hread]
  simp only [hfinite, hpicture, Bool.not_true, Bool.false_eq_true, if_false, run_bind]
  obtain ⟨d₁, hgrows, ⟨failure, hrun⟩ | ⟨d', hwrite, hrun⟩⟩ := writePng_cases hfs out picture d
  · rw [hrun]
    exact ⟨_, _, rfl, .inr ⟨hgrows, failure, rfl, rfl⟩⟩
  · rw [hrun]
    exact ⟨_, _, rfl, .inl ⟨rfl, picture?_of_writePicture hwrite⟩⟩

/-! ## All frames -/

theorem take_tickTimes {k count : Nat} (h : k ≤ count) :
    (ticks (tickTimes fps count)).take k = ticks (tickTimes fps k) := by
  rw [ticks, tickTimes, ← List.map_take, ← List.map_take, List.take_range, Nat.min_eq_left h]
  rfl

/-- After each tick the raster is the one to which a jump to the time of that tick leads. -/
theorem Filmed.raster_eq {outDir : String} {untilMs : Option Float}
    (h : Filmed (startPlayback settings bytes).1 fps untilMs outDir d outcomes c d')
    {k : Nat} (hk : k < outcomes.length)
    (hadd : ∀ tick ≤ k,
      instant fps tick + (instant fps (tick + 1) - instant fps tick) = instant fps (tick + 1))
    (hmono : ∀ tick ≤ k, PacketRate.disc.packetsAt (instant fps tick)
      ≤ PacketRate.disc.packetsAt (instant fps (tick + 1)))
    {o : Outcome} {picture : Frame} (ho : Jump settings bytes (tickTime fps (k + 1)) o picture) :
    o.clock.raster = outcomes[k].clock.raster := by
  have hrun := run_take h.ticked k hk
  rw [take_tickTimes hk] at hrun
  have going : ∀ x ∈ (outcomes.take (k + 1)).dropLast, x.clock.running = true := by
    intro x hx
    refine h.going x ?_
    rw [List.dropLast_eq_take] at hx ⊢
    rw [List.length_take, List.take_take] at hx
    exact (List.take_prefix_take_left (by omega)).subset hx
  obtain ⟨-, hpointer⟩ := arrived_of_ticks hrun going
    (fun tick ht => hadd tick (Nat.le_of_lt_succ ht))
    (fun tick ht => hmono tick (Nat.le_of_lt_succ ht))
  have hsame : o.clock.pointer = outcomes[k].clock.pointer := by
    rw [ho.pointer, hpointer, PacketRate.packetsAt_from_zero]
    rfl
  have hpass := pass_startPlayback settings bytes
  exact ((hpass.moves (moves_of_tick ho.ticked)).eq_of_pointer_eq
    (hpass.run (ticks_rewinds _) hrun) hsame).1

/-- With an input that can be read: the command for one frame writes the picture of as many
instructions as the position of its single tick has reached, or of all if that lies past the end,
whatever the offset of syncs is; and after each tick of the command for frames the raster is the
one that the command for one frame pictures at the time of that tick, provided that the times of
the ticks so far add up and reach packets in order. -/
theorem frame_eq_frames (hfs : fs.Faithful) (input : Input) (d : Disk)
    (hread : ((readInput fs input).run d).1 = .ok (bytes, settings)) :
    let instructions := ((OpcodeTable.ofSettings settings).decodeStream bytes).1
    (∀ (atMs : Float) (out : String), atMs.isFinite = true →
      ∃ o picture, Jump settings bytes atMs o picture
        ∧ Shows instructions
          (min (PacketRate.disc.packetsAt o.clock.positionMs) instructions.length) picture
        ∧ (∀ offsetMs, ∃ o', Jump { settings with syncOffsetMs := offsetMs } bytes atMs o' picture)
        ∧ ∃ t d', (frame fs input atMs out).run d = (t, d')
          ∧ (t.failure = none ∧ d'.picture? out = some picture
            ∨ Grows d d' ∧ ∃ failure, t.failure = some failure
              ∧ (writePng fs out picture).run d = (.error failure, d')))
    ∧ ∀ (outDir : String) (fps : Nat) (untilMs : Option Float),
      ((makeOutputDirectory fs outDir).run d).1 = .ok () →
      ∃ t d' outcomes c d₁, (frames fs input outDir fps untilMs).run d = (t, d')
        ∧ Filmed (startPlayback settings bytes).1 fps untilMs outDir d outcomes c d₁
        ∧ Ended fs settings bytes outDir fps untilMs outcomes c d₁ t d'
        ∧ ∀ (k : Nat) (hk : k < outcomes.length),
          (∀ tick ≤ k, instant fps tick + (instant fps (tick + 1) - instant fps tick)
            = instant fps (tick + 1)) →
          (∀ tick ≤ k, PacketRate.disc.packetsAt (instant fps tick)
            ≤ PacketRate.disc.packetsAt (instant fps (tick + 1))) →
          ∃ o picture, Jump settings bytes (tickTime fps (k + 1)) o picture
            ∧ o.clock.raster = outcomes[k].clock.raster := by
  refine ⟨fun atMs out hfinite => ?_, fun outDir fps untilMs hmade => ?_⟩
  · obtain ⟨o, picture, hjump⟩ := exists_jump settings bytes atMs
    exact ⟨o, picture, hjump, hjump.shows, hjump.syncOffset,
      frame_of_read hfs hread hfinite out hjump⟩
  · obtain ⟨t, d', outcomes, c, d₁, hrun, hfilmed, hended, -⟩ := exists_filmed hfs fps untilMs
      hread hmade
    refine ⟨t, d', outcomes, c, d₁, hrun, hfilmed, hended, fun k hk hadd hmono => ?_⟩
    obtain ⟨o, picture, hjump⟩ := exists_jump settings bytes (tickTime fps (k + 1))
    exact ⟨o, picture, hjump, hfilmed.raster_eq hk hadd hmono hjump⟩

/-- Two instructions that a jump to 7 ms draws both, and that frames in steps of 1 ms have not
reached at the first. -/
theorem frame_eq_frames_pair :
    let instructions := [Instruction.memoryPreset 5 0, .borderPreset 3]
    let bytes := instructions.flatMap fun i => i.packet.bytes.toList
    let d : Disk := ⟨[(["in.cdg"], .file bytes)], []⟩
    let input : Input := ⟨"in.cdg", none⟩
    (∃ o picture t d', Jump .standard bytes 7.0 o picture ∧ Shows instructions 2 picture
        ∧ (frame Disk.fileSystem input 7.0 "out.png").run d = (t, d') ∧ t.failure = none
        ∧ d'.picture? "out.png" = some picture)
      ∧ ∃ t d' outcomes c d₁, (frames Disk.fileSystem input "out" 1000 none).run d = (t, d')
        ∧ Filmed (startPlayback .standard bytes).1 1000 none "out" d outcomes c d₁
        ∧ ∃ hk : 0 < outcomes.length, ∃ o picture,
          Jump .standard bytes (tickTime 1000 1) o picture
            ∧ o.clock.raster = outcomes[0].clock.raster := by
  intro instructions bytes d input
  have hread : ((readInput Disk.fileSystem input).run d).1 = .ok (bytes, .standard) :=
    readInput_of_readFile (by decide +kernel)
  have hd : (OpcodeTable.ofSettings .standard).decodeStream bytes = (instructions, []) := by
    decide +kernel
  have hmade : ((makeOutputDirectory Disk.fileSystem "out").run d).1 = .ok () := by
    decide +kernel
  obtain ⟨hone, hall⟩ := frame_eq_frames Disk.faithful_fileSystem input d hread
  constructor
  · obtain ⟨o, picture, hjump, hshows, -, t, d', hrun, hend⟩ :=
      hone 7.0 "out.png" (by decide +kernel)
    have hplace : min (PacketRate.disc.packetsAt o.clock.positionMs) instructions.length = 2 := by
      rw [hjump.positionMs]
      decide +kernel
    rw [hd, hplace] at hshows
    rcases hend with ⟨hnone, hstored⟩ | ⟨-, failure, -, hfailed⟩
    · exact ⟨o, picture, t, d', hjump, hshows, hrun, hnone, hstored⟩
    · -- Nothing stands at the path, so that the write does not fail.
      have hfind : d.find "out.png" = .ok (.absent ["out.png"]) := by decide +kernel
      have hwrite : d.writePicture "out.png" picture
          = .ok (d.put ["out.png"] (.picture picture)) := by
        rw [writePicture, if_neg (by decide +kernel), hfind]
        rfl
      have hpicture : (Disk.fileSystem.writePicture "out.png" picture).run d
          = (.ok (), d.put ["out.png"] (.picture picture)) :=
        (run_attempt (fun d => d.writePicture "out.png" picture) d).trans (by rw [hwrite])
      have hparent : (makeParent Disk.fileSystem "out.png").run d = (.ok (), d) := by
        rw [makeParent, show Path.parent? "out.png" = some "" by decide +kernel]
        rfl
      rw [writePng_eq, run_bind, hparent] at hfailed
      simp only [run_bind, hpicture] at hfailed
      cases hfailed
  · obtain ⟨t, d', outcomes, c, d₁, hrun, hfilmed, hended, hagree⟩ := hall "out" 1000 none hmade
    have hk : 0 < outcomes.length := by
      refine Nat.pos_of_ne_zero fun h0 => ?_
      obtain rfl := List.length_eq_zero_iff.1 h0
      have hticked := hfilmed.ticked
      rw [List.length_nil, tickTimes, List.range_zero, List.map_nil, ticks, List.map_nil, run_nil,
        Except.ok.injEq, Prod.mk.injEq] at hticked
      obtain ⟨-, rfl⟩ := hticked
      cases hended with
      | whole hhalted =>
        rcases hhalted with hover | hover
        · cases hover
        · cases hover
      | exhausted hexhausted =>
        have hbound := hexhausted.length_eq
        rw [length_startPlayback, hd] at hbound
        exact absurd hbound (by decide)
      | refused hrefused =>
        obtain ⟨picture, hframe, -⟩ := hrefused.refused
        rcases tick_cases (p := 0) rfl rfl hrefused.ticked with ⟨-, rfl⟩ | ⟨ht, -⟩
        · cases hframe
        · exact absurd ht (by decide +kernel)
    refine ⟨t, d', outcomes, c, d₁, hrun, hfilmed, hk, hagree 0 hk ?_ ?_⟩
    · intro tick ht
      rw [Nat.le_zero.1 ht]
      decide +kernel
    · intro tick ht
      rw [Nat.le_zero.1 ht]
      decide +kernel

end Command

end CdGraphics
