import CdGraphics.Proofs.Stored

/-!
# Writing through a file system

A `Faithful` file system keeps what it is given on a disk or refuses, for whatever reason, and then
leaves the disk as it was. All that commands do with it but write pictures makes directories at
most (`Growing`); a picture that is written is found at its path afterwards, and one that is
refused leaves nothing (`writePng_cases`).
-/

namespace CdGraphics

open Disk

/-- A file system that keeps directories and pictures on a disk. It may refuse whatever it likes. -/
structure FileSystem.Faithful (fs : FileSystem (StateM Disk)) : Prop where
  readFile : ∀ path d, ((fs.readFile path).run d).2 = d
  isDirectory : ∀ path d, ((fs.isDirectory path).run d).2 = d
  makeDirectory : ∀ path d, (∃ e, (fs.makeDirectory path).run d = (.error e, d))
    ∨ ∃ d', d.makeDirectory path = .ok d' ∧ (fs.makeDirectory path).run d = (.ok (), d')
  writePicture : ∀ path picture d, (∃ e, (fs.writePicture path picture).run d = (.error e, d))
    ∨ ∃ d', d.writePicture path picture = .ok d'
      ∧ (fs.writePicture path picture).run d = (.ok (), d')

theorem Disk.run_attempt (change : Disk → Except FileError Disk) (d : Disk) :
    (attempt change).run d = match change d with
      | .ok d' => (.ok (), d')
      | .error e => (.error e, d) := by
  show (match change d with
    | .ok d' => do
      set d'
      return .ok ()
    | .error e => return .error e : StateM Disk (Except FileError Unit)).run d = _
  cases change d <;> rfl

theorem Disk.attempt_cases (change : Disk → Except FileError Disk) (d : Disk) :
    (∃ e, (attempt change).run d = (.error e, d))
      ∨ ∃ d', change d = .ok d' ∧ (attempt change).run d = (.ok (), d') := by
  rw [run_attempt]
  cases change d with
  | error e => exact .inl ⟨e, rfl⟩
  | ok d' => exact .inr ⟨d', rfl, rfl⟩

theorem Disk.faithful_fileSystem : fileSystem.Faithful where
  readFile _ _ := rfl
  isDirectory _ _ := rfl
  makeDirectory path d := attempt_cases (fun d => d.makeDirectory path) d
  writePicture path picture d := attempt_cases (fun d => d.writePicture path picture) d

theorem run_bind {α β : Type} (x : StateM Disk α) (f : α → StateM Disk β) (d : Disk) :
    (x >>= f).run d = (f (x.run d).1).run (x.run d).2 := rfl

/-- The computation makes directories at most. -/
def Growing {α : Type} (x : StateM Disk α) : Prop := ∀ d, Grows d (x.run d).2

theorem Growing.pure {α : Type} (a : α) : Growing (Pure.pure a) := fun d => .refl d

theorem Growing.bind {α β : Type} {x : StateM Disk α} {f : α → StateM Disk β} (hx : Growing x)
    (hf : ∀ a, Growing (f a)) : Growing (x >>= f) := fun d => (hx d).trans (hf _ _)

namespace FileSystem

variable {fs : FileSystem (StateM Disk)}

theorem Faithful.growing_makeDirectory (h : fs.Faithful) (path : String) :
    Growing (fs.makeDirectory path) := by
  intro d
  rcases h.makeDirectory path d with ⟨e, hrun⟩ | ⟨d', hmade, hrun⟩
  · rw [hrun]
    exact .refl d
  · rw [hrun]
    exact grows_of_makeDirectory hmade

theorem Faithful.growing_ensureDirectory (h : fs.Faithful) (path : String) :
    Growing (fs.ensureDirectory path) := by
  refine (h.growing_makeDirectory path).bind fun r => ?_
  cases r with
  | ok => exact .pure _
  | error e =>
    refine Growing.bind (fun d => ?_) fun b => ?_
    · rw [h.isDirectory]
      exact .refl d
    · cases b <;> exact .pure _

theorem Faithful.growing_makeDirectoriesWithin (h : fs.Faithful) :
    ∀ (count : Nat) (path : String), Growing (fs.makeDirectoriesWithin count path)
  | 0, _ => .pure _
  | count + 1, path => by
    unfold makeDirectoriesWithin
    split_ifs
    · exact .pure _
    · refine (h.growing_ensureDirectory path).bind fun r => ?_
      split
      · split
        · exact .pure _
        · refine (h.growing_makeDirectoriesWithin count _).bind fun r => ?_
          cases r with
          | ok => exact h.growing_ensureDirectory path
          | error e => exact .pure _
      · exact .pure _

end FileSystem

namespace Command

variable {fs : FileSystem (StateM Disk)}

theorem readInput_run_snd (h : fs.Faithful) (input : Input) (d : Disk) :
    ((readInput fs input).run d).2 = d := by
  unfold readInput
  rw [run_bind, h.readFile]
  cases ((fs.readFile input.path).run d).1 with
  | error e => rfl
  | ok bytes =>
    cases input.settings with
    | none => rfl
    | some path =>
      simp only [run_bind, readSettings, h.readFile]
      cases ((fs.readFile path).run d).1 with
      | error e => rfl
      | ok text =>
        simp only
        cases decodeText? text with
        | none => rfl
        | some text =>
          simp only
          cases Settings.ofText text <;> rfl

theorem growing_makeOutputDirectory (h : fs.Faithful) (path : String) :
    Growing (makeOutputDirectory fs path) :=
  (h.growing_makeDirectoriesWithin _ path).bind fun _ => .pure _

theorem readInput_of_readFile {d : Disk} {path : String} {bytes : List UInt8}
    (h : d.readFile path = .ok bytes) :
    ((readInput Disk.fileSystem ⟨path, none⟩).run d).1 = .ok (bytes, .standard) := by
  have hrun : (Disk.fileSystem.readFile path).run d = (d.readFile path, d) := rfl
  rw [readInput, run_bind, hrun, h]
  rfl

/-- The directory of a path is made, if it names one. -/
def makeParent (fs : FileSystem (StateM Disk)) (path : String) :
    StateM Disk (Except Failure Unit) :=
  let parent := (Path.parent? path).getD ""
  if parent.isEmpty then pure (.ok ()) else makeOutputDirectory fs parent

theorem growing_makeParent (h : fs.Faithful) (path : String) : Growing (makeParent fs path) := by
  unfold makeParent
  simp only
  split_ifs
  · exact .pure _
  · exact growing_makeOutputDirectory h _

theorem writePng_eq (fs : FileSystem (StateM Disk)) (path : String) (picture : Frame) :
    writePng fs path picture = do
      match ← makeParent fs path with
      | .error failure => return .error failure
      | .ok () =>
        return (← fs.writePicture path picture).mapError fun e =>
          [s!"write png '{path}'", e.message] := by
  unfold writePng makeParent
  simp only
  split_ifs <;> rfl

/-- A picture is written where the directories for it have been made, or nothing is. -/
theorem writePng_cases (h : fs.Faithful) (path : String) (picture : Frame) (d : Disk) :
    ∃ d₁, Grows d d₁ ∧ ((∃ failure, (writePng fs path picture).run d = (.error failure, d₁))
      ∨ ∃ d', d₁.writePicture path picture = .ok d'
        ∧ (writePng fs path picture).run d = (.ok (), d')) := by
  refine ⟨((makeParent fs path).run d).2, growing_makeParent h path d, ?_⟩
  rw [writePng_eq, run_bind]
  obtain ⟨made, d₁⟩ := (makeParent fs path).run d
  cases made with
  | error failure => exact .inl ⟨failure, rfl⟩
  | ok =>
    simp only [run_bind]
    rcases h.writePicture path picture d₁ with ⟨e, hrun⟩ | ⟨d', hwrite, hrun⟩
    · rw [hrun]
      exact .inl ⟨_, rfl⟩
    · rw [hrun]
      exact .inr ⟨d', hwrite, rfl⟩

theorem makeParent_of_root {path name : String} (hpath : AtRoot path name) (d : Disk) :
    (makeParent Disk.fileSystem path).run d = (.ok (), d) := by
  rw [makeParent, hpath.parent]
  rfl

theorem writePng_of_directory {d : Disk} {path name : String} (hpath : AtRoot path name)
    (hget : d.get? [name] = some .directory) (picture : Frame) :
    (writePng Disk.fileSystem path picture).run d
      = (.error [s!"write png '{path}'", FileError.isDirectory.message], d) := by
  have hrefused : (Disk.fileSystem.writePicture path picture).run d = (.error .isDirectory, d) := by
    have hwrite : d.writePicture path picture = .error .isDirectory := by
      rw [writePicture, if_neg hpath.not_slash, (hpath.reaches d).find_eq hget]
      rfl
    exact (run_attempt (fun d => d.writePicture path picture) d).trans (by rw [hwrite])
  rw [writePng_eq, run_bind, makeParent_of_root hpath]
  simp only [run_bind, hrefused]
  rfl

/-- A picture is written over a file in the root that was there before any other was written. -/
theorem writePng_of_root {d₀ d : Disk} {outDir path name : String} {pictures : List Frame}
    {e : Entry} (hs : Stored outDir d₀ d pictures) (hpath : AtRoot path name)
    (hget : d₀.get? [name] = some e) (he : e ≠ .directory) (picture : Frame) :
    ((writePng Disk.fileSystem path picture).run d).1 = .ok () := by
  obtain ⟨e', hleaf, he'⟩ := hs.exists_leaf hget he
  have hwrite : (Disk.fileSystem.writePicture path picture).run d
      = (.ok (), d.put [name] (.picture picture)) :=
    (run_attempt (fun d => d.writePicture path picture) d).trans
      (by rw [writePicture_of_leaf (hpath.reaches d) hpath.not_slash hleaf he'])
  rw [writePng_eq, run_bind, makeParent_of_root hpath]
  simp only [run_bind, hwrite]
  rfl

end Command

end CdGraphics
