import CdGraphics.Proofs.SteadyTicks
import CdGraphics.Proofs.Writing

/-!
# The loop for frames

The command for frames ticks a clock at a steady rate for as long as it runs and writes each picture
that a tick hands over under the next number. What so many ticks leave behind is `Filmed`, and
`Filmed.deliver` adds a tick to it: either its picture is stored as well, or the write is refused,
which stops the clock and ends the loop. The loop has a bound on its ticks that playback has not.
It makes no difference unless so many ticks leave the clock running, and then none of them was to
reach past the end of the stream (`exists_filmed`).
-/

namespace CdGraphics

open Clock Disk

namespace Command

/-! ## The loop -/

variable {fs : FileSystem (StateM Disk)} {outDir : String} {fps : Nat} {untilMs : Option Float}
  {start c : Clock} {d₀ d d' : Disk} {outcomes : List Outcome} {o : Outcome} {p : Progress}
  {started : List Notice} {picture : Frame} {failure : Failure}

/-- What ticks of a clock from `start` on have left behind, where every picture that they handed
over was written, since the disk was `d₀`. -/
structure Filmed (start : Clock) (fps : Nat) (untilMs : Option Float) (outDir : String)
    (d₀ : Disk) (outcomes : List Outcome) (c : Clock) (d : Disk) : Prop where
  ticked : start.run (ticks (tickTimes fps outcomes.length)) = .ok (outcomes, c)
  /-- Each tick but the last left the clock running. -/
  going : ∀ o ∈ outcomes.dropLast, o.clock.running = true
  timely : ∀ tick, 1 ≤ tick → tick ≤ outcomes.length → isPast untilMs (tickTime fps tick) = false
  stored : Stored outDir d₀ d (pictures outcomes)

/-- One more tick of a running clock, within the time. -/
structure Next (fps : Nat) (untilMs : Option Float) (outcomes : List Outcome) (c : Clock)
    (o : Outcome) : Prop where
  running : c.running = true
  timely : isPast untilMs (tickTime fps (outcomes.length + 1)) = false
  ticked : c.tick (tickTime fps (outcomes.length + 1)) = .ok o

/-- One more tick, whose picture is refused. -/
structure Refused (fs : FileSystem (StateM Disk)) (fps : Nat) (untilMs : Option Float)
    (outDir : String) (outcomes : List Outcome) (c : Clock) (d : Disk) (o : Outcome)
    (failure : Failure) (d' : Disk) : Prop extends Next fps untilMs outcomes c o where
  refused : ∃ picture, o.frame = some picture
    ∧ (writePng fs (framePath outDir (pictures outcomes).length) picture).run d
      = (.error failure, d')

/-- How far the loop has come after ticks whose pictures were all written. -/
def progress (started : List Notice) (outcomes : List Outcome) (c : Clock) : Progress where
  clock := c
  written := (pictures outcomes).length
  notices := started ++ outcomes.flatMap Outcome.notices
  failure := none

/-- How far it has come where the picture of one more tick was refused. -/
def interrupted (started : List Notice) (outcomes : List Outcome) (o : Outcome)
    (failure : Failure) : Progress where
  clock := o.clock.stop.1
  written := (pictures outcomes).length
  notices := started ++ outcomes.flatMap Outcome.notices ++ (o.notices ++ o.clock.stop.2)
  failure := some failure

theorem progress_of_no_frame (started : List Notice) (outcomes : List Outcome)
    (hf : o.frame = none) : progress started (outcomes ++ [o]) o.clock
      = ⟨o.clock, (pictures outcomes).length,
        started ++ outcomes.flatMap Outcome.notices ++ o.notices, none⟩ := by
  simp [progress, pictures, hf]

theorem progress_of_frame (started : List Notice) (outcomes : List Outcome)
    (hf : o.frame = some picture) : progress started (outcomes ++ [o]) o.clock
      = ⟨o.clock, (pictures outcomes).length + 1,
        started ++ outcomes.flatMap Outcome.notices ++ o.notices, none⟩ := by
  simp [progress, pictures, hf]

theorem progress_nil (started : List Notice) (c : Clock) :
    progress started [] c = ⟨c, 0, started, none⟩ := by
  simp [progress, pictures]

theorem filmed_nil (start : Clock) (fps : Nat) (untilMs : Option Float) (outDir : String)
    (h : Grows d₀ d) : Filmed start fps untilMs outDir d₀ [] start d where
  ticked := rfl
  going := by simp
  timely tick h h' := by
    simp only [List.length_nil] at h'
    omega
  stored := stored_nil h

theorem Filmed.concat (h : Filmed start fps untilMs outDir d₀ outcomes c d)
    (hnext : Next fps untilMs outcomes c o) (hs : Stored outDir d₀ d' (pictures (outcomes ++ [o]))) :
    Filmed start fps untilMs outDir d₀ (outcomes ++ [o]) o.clock d' := by
  refine ⟨?_, ?_, fun tick h1 h2 => ?_, hs⟩
  · rw [List.length_append, List.length_singleton, tickTimes_succ, ticks, List.map_append]
    refine run_concat_eq_ok.2 ⟨outcomes, c, o, h.ticked, ?_, rfl, rfl⟩
    exact (perform_tick_proceed c _ _).trans hnext.ticked
  · rw [List.dropLast_concat]
    exact forall_running_of_run h.ticked hnext.running h.going
  · rw [List.length_append, List.length_singleton] at h2
    rcases Nat.lt_or_eq_of_le h2 with hlt | rfl
    · exact h.timely tick h1 (Nat.le_of_lt_succ hlt)
    · exact hnext.timely

theorem Filmed.playable (h : Filmed start fps untilMs outDir d₀ outcomes c d)
    (hstart : Playable start) : Playable c :=
  run_keep (Q := fun _ => True) (fun _ _ _ _ _ ho hd => hd.perform ho) (fun _ _ => trivial) h.ticked
    hstart

theorem deliver_of_no_frame (hf : o.frame = none) : deliver fs outDir p o
    = pure { p with clock := o.clock, notices := p.notices ++ o.notices } := by
  unfold deliver
  rw [hf]

theorem deliver_of_frame (hf : o.frame = some picture) : deliver fs outDir p o = do
    match ← writePng fs (framePath outDir p.written) picture with
    | .ok () => return { p with
        clock := o.clock, notices := p.notices ++ o.notices, written := p.written + 1 }
    | .error failure => return { p with
        clock := o.clock.stop.1
        notices := p.notices ++ (o.notices ++ o.clock.stop.2)
        failure := some failure } := by
  unfold deliver
  simp only [Outcome.heed, hf]
  rfl

/-- A tick's picture is stored with the others, or it is refused and playback stops. -/
theorem Filmed.deliver (hfs : fs.Faithful)
    (h : Filmed start fps untilMs outDir d₀ outcomes c d)
    (hnext : Next fps untilMs outcomes c o) :
    (∃ d', (deliver fs outDir (progress started outcomes c) o).run d
        = (progress started (outcomes ++ [o]) o.clock, d')
        ∧ Filmed start fps untilMs outDir d₀ (outcomes ++ [o]) o.clock d')
      ∨ ∃ failure d', Refused fs fps untilMs outDir outcomes c d o failure d'
        ∧ (deliver fs outDir (progress started outcomes c) o).run d
          = (interrupted started outcomes o failure, d') := by
  rcases hf : o.frame with _ | picture
  · left
    refine ⟨d, ?_, h.concat hnext (pictures_of_no_frame outcomes hf ▸ h.stored)⟩
    rw [deliver_of_no_frame hf, progress_of_no_frame started outcomes hf]
    rfl
  · rw [deliver_of_frame hf, run_bind]
    obtain ⟨d₁, hgrows, ⟨failure, hrun⟩ | ⟨d', hwrite, hrun⟩⟩ :=
      writePng_cases hfs (framePath outDir (pictures outcomes).length) picture d
    · right
      refine ⟨failure, d₁, ⟨hnext, picture, hf, hrun⟩, ?_⟩
      rw [progress, hrun]
      rfl
    · left
      have hstored := (h.stored.grow hgrows).concat hwrite
      rw [← pictures_of_frame outcomes hf] at hstored
      refine ⟨d', ?_, h.concat hnext hstored⟩
      rw [progress_of_frame started outcomes hf, progress, hrun]
      rfl

theorem playFrames_of_ended {periodMs : Float} {count tick : Nat}
    (h : p.clock.running = false ∨ isPast untilMs (Float.ofNat tick * periodMs) = true) :
    playFrames fs outDir periodMs untilMs count tick p = pure p := by
  cases count with
  | zero => rfl
  | succ count =>
    unfold playFrames
    simp only
    rw [if_pos (by simpa using h)]

theorem playFrames_of_tick {periodMs : Float} {count tick : Nat} (hr : p.clock.running = true)
    (ht : isPast untilMs (Float.ofNat tick * periodMs) = false)
    (ho : p.clock.tick (Float.ofNat tick * periodMs) = .ok o) :
    playFrames fs outDir periodMs untilMs (count + 1) tick p
      = deliver fs outDir p o >>= playFrames fs outDir periodMs untilMs count (tick + 1) := by
  rw [playFrames]
  rw [if_neg (by simp [hr, ht]), ho]

/-- Playback does not go on: the clock has stopped, or the next tick would come too late. -/
def Halted (fps : Nat) (untilMs : Option Float) (outcomes : List Outcome) (c : Clock) : Prop :=
  c.running = false ∨ isPast untilMs (tickTime fps (outcomes.length + 1)) = true

theorem not_halted_iff : ¬ Halted fps untilMs outcomes c
    ↔ c.running = true ∧ isPast untilMs (tickTime fps (outcomes.length + 1)) = false := by
  rw [Halted, not_or, Bool.not_eq_false, Bool.not_eq_true]

/-- The loop once so many ticks have been made, with their pictures written, and at most `bound`
more are to be. -/
def playOn (fs : FileSystem (StateM Disk)) (outDir : String) (fps : Nat) (untilMs : Option Float)
    (started : List Notice) (outcomes : List Outcome) (c : Clock) (bound : Nat) :
    StateM Disk Progress :=
  playFrames fs outDir (1000.0 / Float.ofNat fps) untilMs bound (outcomes.length + 1)
    (progress started outcomes c)

theorem playOn_of_halted (h : Halted fps untilMs outcomes c) (bound : Nat) :
    (playOn fs outDir fps untilMs started outcomes c bound).run d
      = (progress started outcomes c, d) := by
  rw [playOn, playFrames_of_ended (p := progress started outcomes c) h]
  rfl

theorem playOn_succ (h : Next fps untilMs outcomes c o) (bound : Nat) :
    playOn fs outDir fps untilMs started outcomes c (bound + 1)
      = deliver fs outDir (progress started outcomes c) o >>=
        playFrames fs outDir (1000.0 / Float.ofNat fps) untilMs bound (outcomes.length + 2) :=
  playFrames_of_tick (p := progress started outcomes c) h.running h.timely h.ticked

theorem playOn_of_written (h : Next fps untilMs outcomes c o)
    (hd : (deliver fs outDir (progress started outcomes c) o).run d
      = (progress started (outcomes ++ [o]) o.clock, d')) (bound : Nat) :
    (playOn fs outDir fps untilMs started outcomes c (bound + 1)).run d
      = (playOn fs outDir fps untilMs started (outcomes ++ [o]) o.clock bound).run d' := by
  rw [playOn_succ h, run_bind, hd, playOn, List.length_append, List.length_singleton]

theorem playOn_of_refused (h : Next fps untilMs outcomes c o)
    (hd : (deliver fs outDir (progress started outcomes c) o).run d
      = (interrupted started outcomes o failure, d')) (bound : Nat) :
    (playOn fs outDir fps untilMs started outcomes c (bound + 1)).run d
      = (interrupted started outcomes o failure, d') := by
  rw [playOn_succ h, run_bind, hd, playFrames_of_ended (.inl rfl)]
  rfl

/-- The loop ends with all pictures written where playback does not go on, or at the first that is
refused, and a greater bound makes no difference then; or it comes to its bound. -/
theorem Filmed.play (hfs : fs.Faithful) (hstart : Playable start) (started : List Notice) :
    ∀ (count : Nat) {outcomes : List Outcome} {c : Clock} {d : Disk},
      Filmed start fps untilMs outDir d₀ outcomes c d →
      ∃ outcomes' c' d₁, Filmed start fps untilMs outDir d₀ outcomes' c' d₁ ∧
        ((Halted fps untilMs outcomes' c' ∧ ∀ bound, count ≤ bound →
            (playOn fs outDir fps untilMs started outcomes c bound).run d
              = (progress started outcomes' c', d₁))
          ∨ (¬ Halted fps untilMs outcomes' c' ∧ outcomes'.length = outcomes.length + count
            ∧ (playOn fs outDir fps untilMs started outcomes c count).run d
              = (progress started outcomes' c', d₁))
          ∨ ∃ o failure d', Refused fs fps untilMs outDir outcomes' c' d₁ o failure d'
            ∧ ∀ bound, count ≤ bound →
              (playOn fs outDir fps untilMs started outcomes c bound).run d
                = (interrupted started outcomes' o failure, d'))
  | count, outcomes, c, d, h => by
    by_cases hhalted : Halted fps untilMs outcomes c
    · exact ⟨outcomes, c, d, h, .inl ⟨hhalted, fun bound _ => playOn_of_halted hhalted bound⟩⟩
    cases count with
    | zero => exact ⟨outcomes, c, d, h, .inr (.inl ⟨hhalted, rfl, rfl⟩)⟩
    | succ count =>
      -- The clock runs and the time is not over: one more tick, and the loop goes on from there.
      obtain ⟨hr, ht⟩ := not_halted_iff.1 hhalted
      obtain ⟨o, ho⟩ := (h.playable hstart).tick_ok (tickTime fps (outcomes.length + 1))
      have hnext : Next fps untilMs outcomes c o := ⟨hr, ht, ho⟩
      rcases h.deliver hfs hnext with ⟨d', hrun, hfilmed⟩ | ⟨failure, d', hrefused, hrun⟩
      · obtain ⟨outcomes', c', d₁, hfilmed', hend⟩ := Filmed.play hfs hstart started count hfilmed
        refine ⟨outcomes', c', d₁, hfilmed', ?_⟩
        rcases hend with ⟨hend, hplay⟩ | ⟨hend, hlength, hplay⟩ | ⟨x, failure, e, hx, hplay⟩
        · refine .inl ⟨hend, fun bound hbound => ?_⟩
          obtain ⟨bound, rfl⟩ := Nat.exists_eq_add_of_le' hbound
          exact (playOn_of_written hnext hrun _).trans (hplay _ (Nat.le_add_left count bound))
        · refine .inr (.inl ⟨hend, ?_, (playOn_of_written hnext hrun _).trans hplay⟩)
          rw [hlength, List.length_append, List.length_singleton, Nat.add_assoc, Nat.add_comm 1]
        · refine .inr (.inr ⟨x, failure, e, hx, fun bound hbound => ?_⟩)
          obtain ⟨bound, rfl⟩ := Nat.exists_eq_add_of_le' hbound
          exact (playOn_of_written hnext hrun _).trans (hplay _ (Nat.le_add_left count bound))
      · refine ⟨outcomes, c, d, h, .inr (.inr ⟨o, failure, d', hrefused, fun bound hbound => ?_⟩)⟩
        obtain ⟨bound, rfl⟩ := Nat.exists_eq_add_of_le' hbound
        exact playOn_of_refused hnext hrun _

theorem Refused.grows (hfs : fs.Faithful)
    (h : Refused fs fps untilMs outDir outcomes c d o failure d') : Grows d d' := by
  obtain ⟨picture, -, hrun⟩ := h.refused
  obtain ⟨d₁, hgrows, ⟨failure', hrun'⟩ | ⟨d'', -, hrun'⟩⟩ :=
    writePng_cases hfs (framePath outDir (pictures outcomes).length) picture d
  · rw [hrun] at hrun'
    cases hrun'
    exact hgrows
  · rw [hrun] at hrun'
    cases hrun'

/-- Of what is in the root, only a directory refuses a picture. -/
theorem Refused.eq_directory {name : String} {e : Entry}
    (h : Refused Disk.fileSystem fps untilMs outDir outcomes c d o failure d')
    (hs : Stored outDir d₀ d (pictures outcomes))
    (hpath : AtRoot (framePath outDir (pictures outcomes).length) name)
    (hget : d₀.get? [name] = some e) : e = .directory
      ∧ failure = [s!"write png '{framePath outDir (pictures outcomes).length}'",
        FileError.isDirectory.message] ∧ d' = d := by
  obtain ⟨picture, -, hrun⟩ := h.refused
  by_cases he : e = .directory
  · subst he
    rw [writePng_of_directory hpath (hs.get?_directory hget), Prod.mk.injEq,
      Except.error.injEq] at hrun
    exact ⟨rfl, hrun.1.symm, hrun.2.symm⟩
  · have hwritten := writePng_of_root hs hpath hget he picture
    rw [hrun] at hwritten
    cases hwritten

theorem Refused.le_length {k : Nat}
    (h : Refused Disk.fileSystem fps untilMs outDir outcomes c d o failure d')
    (hs : Stored outDir d₀ d (pictures outcomes))
    (hroot : ∀ j < k, AtRoot (framePath outDir j) (frameName j))
    (hfiles : ∀ j < k, ∃ e, d₀.get? [frameName j] = some e ∧ e ≠ .directory) :
    k ≤ (pictures outcomes).length := by
  refine Nat.le_of_not_lt fun hlt => ?_
  obtain ⟨e, hget, he⟩ := hfiles _ hlt
  exact he (h.eq_directory hs (hroot _ hlt) hget).1

/-! ## The command -/

variable {settings : Settings} {bytes : List UInt8} {input : Input}

/-- As many ticks as may be have left the clock running and in time, since none of them was to
reach past the end of a stream of so many packets. -/
structure Exhausted (packets fps : Nat) (untilMs : Option Float) (outcomes : List Outcome)
    (c : Clock) : Prop where
  length_eq : outcomes.length = tickBound packets fps
  running : c.running = true
  timely : isPast untilMs (tickTime fps (outcomes.length + 1)) = false
  behind : ∀ tick ≤ outcomes.length, PacketRate.disc.packetsAt (accrued fps tick) ≤ packets

/-- How the command ends after ticks whose pictures were all written: with that many files, since
playback does not go on or there have been as many ticks as may be; or by the failure of the next
picture, which is the last that was tried. -/
inductive Ended (fs : FileSystem (StateM Disk)) (settings : Settings) (bytes : List UInt8)
    (outDir : String) (fps : Nat) (untilMs : Option Float) (outcomes : List Outcome) (c : Clock)
    (d : Disk) : Transcript → Disk → Prop
  | whole : Halted fps untilMs outcomes c →
      Ended fs settings bytes outDir fps untilMs outcomes c d
        ⟨"", s!"wrote {(pictures outcomes).length} frames to {outDir}\n",
          (startPlayback settings bytes).2 ++ outcomes.flatMap Outcome.notices, none⟩ d
  | exhausted : Exhausted (startPlayback settings bytes).1.length fps untilMs outcomes c →
      Ended fs settings bytes outDir fps untilMs outcomes c d
        ⟨"", s!"wrote {(pictures outcomes).length} frames to {outDir}\n",
          (startPlayback settings bytes).2 ++ outcomes.flatMap Outcome.notices, none⟩ d
  | refused {o : Outcome} {failure : Failure} {d' : Disk} :
      Refused fs fps untilMs outDir outcomes c d o failure d' →
      Ended fs settings bytes outDir fps untilMs outcomes c d
        (.failed failure ((startPlayback settings bytes).2
          ++ outcomes.flatMap Outcome.notices ++ (o.notices ++ o.clock.stop.2))) d'

theorem frames_of_unread (hfs : fs.Faithful)
    (hread : ((readInput fs input).run d).1 = .error failure) :
    (frames fs input outDir fps untilMs).run d = (.failed failure [], d) := by
  rw [frames, run_bind, readInput_run_snd hfs, hread]
  rfl

theorem frames_of_unmade (hfs : fs.Faithful)
    (hread : ((readInput fs input).run d).1 = .ok (bytes, settings))
    (hmade : (makeOutputDirectory fs outDir).run d = (.error failure, d')) :
    (frames fs input outDir fps untilMs).run d = (.failed failure [], d') := by
  rw [frames, run_bind, readInput_run_snd hfs, hread]
  simp only [run_bind, hmade]
  rfl

/-- The loop of the command, from the start of playback on. -/
def playThrough (fs : FileSystem (StateM Disk)) (settings : Settings) (bytes : List UInt8)
    (outDir : String) (fps : Nat) (untilMs : Option Float) (bound : Nat) : StateM Disk Progress :=
  playFrames fs outDir (1000.0 / Float.ofNat fps) untilMs bound 1
    ⟨(startPlayback settings bytes).1, 0, (startPlayback settings bytes).2, none⟩

theorem playOn_nil (bound : Nat) : playOn fs outDir fps untilMs (startPlayback settings bytes).2 []
    (startPlayback settings bytes).1 bound
      = playThrough fs settings bytes outDir fps untilMs bound := by
  rw [playOn, progress_nil]
  rfl

/-- No bound on its ticks but the loop's own, or a greater one, makes a difference on a disk. -/
def Unbounded (fs : FileSystem (StateM Disk)) (settings : Settings) (bytes : List UInt8)
    (outDir : String) (fps : Nat) (untilMs : Option Float) (d : Disk) : Prop :=
  ∀ bound, tickBound (startPlayback settings bytes).1.length fps ≤ bound →
    (playThrough fs settings bytes outDir fps untilMs bound).run d
      = (playThrough fs settings bytes outDir fps untilMs
          (tickBound (startPlayback settings bytes).1.length fps)).run d

/-- What the command makes of a stream and settings, once it has the directory for its output. -/
theorem exists_filmed (hfs : fs.Faithful) (fps : Nat) (untilMs : Option Float)
    (hread : ((readInput fs input).run d).1 = .ok (bytes, settings))
    (hmade : ((makeOutputDirectory fs outDir).run d).1 = .ok ()) :
    ∃ t d' outcomes c d₁, (frames fs input outDir fps untilMs).run d = (t, d')
      ∧ Filmed (startPlayback settings bytes).1 fps untilMs outDir d outcomes c d₁
      ∧ Ended fs settings bytes outDir fps untilMs outcomes c d₁ t d'
      ∧ (Exhausted (startPlayback settings bytes).1.length fps untilMs outcomes c
        ∨ Unbounded fs settings bytes outDir fps untilMs
          ((makeOutputDirectory fs outDir).run d).2) := by
  have hgrows := growing_makeOutputDirectory hfs outDir d
  have hnil := filmed_nil (startPlayback settings bytes).1 fps untilMs outDir hgrows
  obtain ⟨outcomes, c, d₁, hfilmed, hend⟩ := Filmed.play hfs
    (playable_startPlayback settings bytes) (startPlayback settings bytes).2
    (tickBound (startPlayback settings bytes).1.length fps) hnil
  simp only [playOn_nil, List.length_nil, Nat.zero_add] at hend
  rw [frames, run_bind, readInput_run_snd hfs, hread]
  simp only [run_bind, hmade]
  rcases hend with ⟨hhalted, hplay⟩ | ⟨hgoing, hlength, hplay⟩ | ⟨o, failure, d', hrefused, hplay⟩
  · have hrun := hplay _ le_rfl
    unfold playThrough at hrun
    rw [hrun]
    exact ⟨_, _, outcomes, c, d₁, rfl, hfilmed, .whole hhalted,
      .inr fun bound hbound => (hplay bound hbound).trans hrun.symm⟩
  · obtain ⟨hr, ht⟩ := not_halted_iff.1 hgoing
    have hbehind := packetsAt_le_of_running hfilmed.ticked hfilmed.going hr
    unfold playThrough at hplay
    rw [hplay]
    have hexhausted := Exhausted.mk hlength hr ht hbehind
    exact ⟨_, _, outcomes, c, d₁, rfl, hfilmed, .exhausted hexhausted, .inl hexhausted⟩
  · have hrun := hplay _ le_rfl
    unfold playThrough at hrun
    rw [hrun]
    exact ⟨_, _, outcomes, c, d₁, rfl, hfilmed, .refused hrefused,
      .inr fun bound hbound => (hplay bound hbound).trans hrun.symm⟩

theorem Ended.stored {d₁ : Disk} {t : Transcript} (hfs : fs.Faithful)
    (h : Ended fs settings bytes outDir fps untilMs outcomes c d₁ t d')
    (hs : Stored outDir d d₁ (pictures outcomes)) : Stored outDir d d' (pictures outcomes) := by
  cases h with
  | whole | exhausted => exact hs
  | refused hrefused => exact hs.grow (hrefused.grows hfs)

end Command

end CdGraphics
