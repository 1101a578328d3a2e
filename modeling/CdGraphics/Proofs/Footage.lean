import CdGraphics.Proofs.FrameCount

/-!
# Frames of playback on a disk

What the command for frames leaves on a disk, for every input: each picture that a tick hands over
in a file of its own, numbered in order, and nothing else but the directories for them. The places
in the stream that they show are known from the ticks (`places`) and rise up to its end, which only
the last tick may show again (`frames_stored`).
-/

namespace CdGraphics

open Clock Disk

namespace Command

variable {fs : FileSystem (StateM Disk)} {settings : Settings} {bytes : List UInt8} {fps : Nat}
  {untilMs : Option Float} {outDir : String} {outcomes : List Outcome} {c : Clock} {d d' : Disk}

theorem Filmed.delivered
    (h : Filmed (startPlayback settings bytes).1 fps untilMs outDir d outcomes c d') :
    Delivered ((OpcodeTable.ofSettings settings).decodeStream bytes).1.toArray outcomes c :=
  delivered_of_ticks (pass_startPlayback settings bytes) (coherent_startPlayback settings bytes) rfl
    h.ticked h.going

/-- On a file system that keeps what it is given or refuses it, the command for frames creates
nothing where it cannot read its input, and makes directories at most where it cannot make the one
for its output. Else it writes each picture that a tick hands over as the next file, and nothing
but these files and directories for them is new. A file shows the first so many instructions, never
more than there are, and these rise from file to file, but for the last file where the last tick
leaves the stream and executes nothing. The first picture that is refused ends the loop and is what
the command fails by, and all files before it stay. The bound on the loop makes no difference unless
playback comes to it without a tick that was to reach past the end, which exact time rules out. -/
theorem frames_stored (hfs : fs.Faithful) (input : Input) (outDir : String) (fps : Nat)
    (untilMs : Option Float) (d : Disk) :
    ∃ t d', (frames fs input outDir fps untilMs).run d = (t, d') ∧
      match ((readInput fs input).run d).1, (makeOutputDirectory fs outDir).run d with
      | .error failure, _ => t = .failed failure [] ∧ d' = d
      | .ok _, (.error failure, d₁) => t = .failed failure [] ∧ d' = d₁ ∧ Grows d d₁
      | .ok (bytes, settings), (.ok (), d₀) =>
        let instructions := ((OpcodeTable.ofSettings settings).decodeStream bytes).1
        ∃ outcomes c d₁,
          Filmed (startPlayback settings bytes).1 fps untilMs outDir d outcomes c d₁
            ∧ List.Forall₂ (Shows instructions) (places instructions.length outcomes)
              (pictures outcomes)
            ∧ Rise instructions.length outcomes
            ∧ Ended fs settings bytes outDir fps untilMs outcomes c d₁ t d'
            ∧ Stored outDir d d' (pictures outcomes)
            ∧ (Exhausted instructions.length fps untilMs outcomes c
              ∨ Unbounded fs settings bytes outDir fps untilMs d₀)
            ∧ (0 < fps → Exact instructions.length fps untilMs →
              ¬ Exhausted instructions.length fps untilMs outcomes c) := by
  rcases hread : ((readInput fs input).run d).1 with failure | ⟨bytes, settings⟩
  · exact ⟨_, _, frames_of_unread hfs hread, rfl, rfl⟩
  rcases hmade : (makeOutputDirectory fs outDir).run d with ⟨failure | _, d₀⟩
  · have hgrows := growing_makeOutputDirectory hfs outDir d
    rw [hmade] at hgrows
    exact ⟨_, _, frames_of_unmade hfs hread hmade, rfl, rfl, hgrows⟩
  obtain ⟨t, d', outcomes, c, d₁, hrun, hfilmed, hended, hbound⟩ := exists_filmed hfs fps untilMs
    hread (congrArg Prod.fst hmade)
  have hdelivered := hfilmed.delivered
  rw [hmade, length_startPlayback] at hbound
  refine ⟨t, d', hrun, outcomes, c, d₁, hfilmed, hdelivered.shows, hdelivered.rise, hended,
    hended.stored hfs hfilmed.stored, hbound, fun hfps hexact => ?_⟩
  rw [← length_startPlayback] at hexact ⊢
  exact hfilmed.not_exhausted hfps hexact

/-- Six instructions at a hundred ticks a second, three packets each: the second tick comes to the
end of the stream, and the third leaves it and shows it again. Where a directory stands in the place
of the second file, the command fails by that file, and the first one stays. -/
theorem frames_stored_six :
    let instructions := [Instruction.memoryPreset 5 0, .borderPreset 3, .setKeyColor 3,
      .memoryPreset 2 0, .noop, .borderPreset 1]
    let bytes := instructions.flatMap fun i => i.packet.bytes.toList
    let files := (["in.cdg"], Entry.file bytes)
      :: [frameName 0, frameName 2].map fun name => ([name], .file [])
    let d : Disk := ⟨([frameName 1], .file []) :: files, []⟩
    let blocked : Disk := ⟨([frameName 1], .directory) :: files, []⟩
    (∃ t d' outcomes c first second,
      (frames Disk.fileSystem ⟨"in.cdg", none⟩ "/" 100 none).run d = (t, d')
        ∧ t.failure = none ∧ t.remarks = "wrote 3 frames to /\n"
        ∧ Filmed (startPlayback .standard bytes).1 100 none "/" d outcomes c d'
        ∧ places 6 outcomes = [3, 6, 6] ∧ pictures outcomes = [first, second, second]
        ∧ Shows instructions 3 first ∧ Shows instructions 6 second ∧ Rise 6 outcomes
        ∧ c.phase = .finished ∧ d'.picture? "/frame_000000.png" = some first
        ∧ d'.picture? "/frame_000001.png" = some second
        ∧ d'.picture? "/frame_000002.png" = some second)
      ∧ ∃ t outcomes c d' first,
        (frames Disk.fileSystem ⟨"in.cdg", none⟩ "/" 100 none).run blocked = (t, d')
          ∧ t.failure = some ["write png '/frame_000001.png'", "Is a directory (os error 21)"]
          ∧ Filmed (startPlayback .standard bytes).1 100 none "/" blocked outcomes c d'
          ∧ places 6 outcomes = [3] ∧ pictures outcomes = [first] ∧ Shows instructions 3 first
          ∧ d'.picture? "/frame_000000.png" = some first
          ∧ d'.picture? "/frame_000001.png" = none ∧ d'.picture? "/frame_000002.png" = none := by
  intro instructions bytes files d blocked
  have hd : (OpcodeTable.ofSettings .standard).decodeStream bytes = (instructions, []) := by
    decide +kernel
  have hlength : (startPlayback .standard bytes).1.length = 6 := by
    rw [length_startPlayback, hd]
    rfl
  have hlast : lastTick 6 100 = 3 := by decide +kernel
  have hexact : Exact 6 100 none := by
    intro tick _ hle _
    have hall : ∀ tick < 4, PacketRate.disc.packetsAt (accrued 100 tick) = due 100 tick := by
      decide +kernel
    exact hall tick (Nat.lt_succ_of_le (hlast ▸ hle))
  have film : ∀ disk : Disk, disk.readFile "in.cdg" = .ok bytes → ∃ t d' outcomes c d₁,
      (frames Disk.fileSystem ⟨"in.cdg", none⟩ "/" 100 none).run disk = (t, d')
        ∧ Filmed (startPlayback .standard bytes).1 100 none "/" disk outcomes c d₁
        ∧ List.Forall₂ (Shows instructions) (places 6 outcomes) (pictures outcomes)
        ∧ Rise 6 outcomes ∧ Ended Disk.fileSystem .standard bytes "/" 100 none outcomes c d₁ t d'
        ∧ Stored "/" disk d' (pictures outcomes) ∧ ¬ Exhausted 6 100 none outcomes c
        ∧ Punctual 6 100 outcomes.length outcomes c := by
    intro disk hread
    obtain ⟨t, d', hrun, h⟩ :=
      frames_stored Disk.faithful_fileSystem ⟨"in.cdg", none⟩ "/" 100 none disk
    rw [readInput_of_readFile hread, show (makeOutputDirectory Disk.fileSystem "/").run disk
      = (.ok (), disk) from rfl] at h
    simp only [hd] at h
    obtain ⟨outcomes, c, d₁, hfilmed, hshows, hrise, hended, hstored, -, hexhausted⟩ := h
    have hpunctual := hfilmed.punctual (by decide) (hlength ▸ hexact)
    rw [hlength] at hpunctual
    exact ⟨t, d', outcomes, c, d₁, hrun, hfilmed, hshows, hrise, hended, hstored,
      hexhausted (by decide) hexact, hpunctual⟩
  have path0 : framePath "/" 0 = "/frame_000000.png" := by decide +kernel
  have path1 : framePath "/" 1 = "/frame_000001.png" := by decide +kernel
  have path2 : framePath "/" 2 = "/frame_000002.png" := by decide +kernel
  constructor
  · obtain ⟨t, d', outcomes, c, d₁, hrun, hfilmed, hshows, hrise, hended, hstored, hexhausted,
      hpunctual⟩ := film d (by decide +kernel)
    cases hended with
    | whole hhalted =>
      obtain ⟨hplaces, hphase⟩ := hpunctual.places_of_halted (by decide) hfilmed.isSome_stream
        hhalted
      rw [hlast, show duePlaces 6 100 3 = [3, 6, 6] by decide +kernel] at hplaces
      rw [hplaces] at hshows
      obtain ⟨first, _, hfirst, hfrom1, hpictures⟩ := List.forall₂_cons_left_iff.1 hshows
      obtain ⟨second, _, hsecond, hfrom2, rfl⟩ := List.forall₂_cons_left_iff.1 hfrom1
      obtain ⟨third, _, hthird, hfrom3, rfl⟩ := List.forall₂_cons_left_iff.1 hfrom2
      obtain rfl := List.forall₂_nil_left_iff.1 hfrom3
      obtain rfl := hsecond.unique hthird
      rw [hpictures] at hstored
      refine ⟨_, _, outcomes, c, first, second, hrun, rfl, ?_, hfilmed, hplaces, hpictures, hfirst,
        hsecond, hrise, hphase, path0 ▸ hstored.picture 0 (by simp),
        path1 ▸ hstored.picture 1 (by simp), path2 ▸ hstored.picture 2 (by simp)⟩
      rw [hpictures, show [first, second, second].length = 3 from rfl]
      rfl
    | exhausted h => exact absurd (hlength ▸ h) hexhausted
    | refused hrefused =>
      have hlt := hpunctual.written_lt (by decide) hrefused.running
      have hget : ∀ k < 3, d.get? [frameName k] = some (.file []) := by decide +kernel
      have hle := hrefused.le_length hfilmed.stored atRoot_framePath
        fun k hk => ⟨_, hget k hk, Entry.noConfusion⟩
      rw [hlast] at hlt
      exact absurd hlt (Nat.not_lt_of_le hle)
  · obtain ⟨t, d', outcomes, c, d₁, hrun, hfilmed, hshows, hrise, hended, hstored, hexhausted,
      hpunctual⟩ := film blocked (by decide +kernel)
    have hget0 : blocked.get? [frameName 0] = some (.file []) := by decide +kernel
    have hget1 : blocked.get? [frameName 1] = some .directory := by decide +kernel
    have hblocked := hfilmed.stored.length_le (atRoot_framePath 1 (by decide)) hget1
    have hticks := hpunctual.written_of_le (by decide) (by decide)
    cases hended with
    | whole hhalted =>
      have hthree := (hpunctual.counted (by decide) hfilmed.isSome_stream hfilmed.timely
        hhalted).unlimited (timely_none _ _)
      rw [hticks, hthree, hlast] at hblocked
      exact absurd hblocked (by decide)
    | exhausted h => exact absurd (hlength ▸ h) hexhausted
    | refused hrefused =>
      have hfiles : ∀ k < 1, ∃ e, blocked.get? [frameName k] = some e ∧ e ≠ .directory := by
        intro k hk
        rw [Nat.lt_one_iff.1 hk]
        exact ⟨_, hget0, Entry.noConfusion⟩
      have hone : (pictures outcomes).length = 1 := Nat.le_antisymm hblocked <|
        hrefused.le_length hfilmed.stored
          (fun k hk => atRoot_framePath k (Nat.lt_trans hk (by decide))) hfiles
      have hpath : AtRoot (framePath "/" (pictures outcomes).length) (frameName 1) := by
        rw [hone]
        exact atRoot_framePath 1 (by decide)
      obtain ⟨-, rfl, rfl⟩ := hrefused.eq_directory hfilmed.stored hpath hget1
      have hplaces := hpunctual.places_eq
      rw [← hticks, hone, show duePlaces 6 100 1 = [3] by decide +kernel] at hplaces
      rw [hplaces] at hshows
      obtain ⟨first, _, hfirst, hrest, hpictures⟩ := List.forall₂_cons_left_iff.1 hshows
      obtain rfl := List.forall₂_nil_left_iff.1 hrest
      have hnone : ∀ k, 1 ≤ k → k < 3 → d'.picture? (framePath "/" k) = none := by
        intro k h1 h3
        have hblank : ∀ k < 3, blocked.picture? (framePath "/" k) = none := by decide +kernel
        exact hstored.picture?_eq_none (hone.trans_le h1) (atRoot_framePath k h3) (hblank k h3)
      refine ⟨_, outcomes, c, d', first, hrun, ?_, hfilmed, hplaces, hpictures, hfirst, ?_,
        path1 ▸ hnone 1 (by decide) (by decide), path2 ▸ hnone 2 (by decide) (by decide)⟩
      · rw [hone, path1]
        rfl
      · rw [hpictures] at hstored
        exact path0 ▸ hstored.picture 0 (by simp)

end Command

end CdGraphics
