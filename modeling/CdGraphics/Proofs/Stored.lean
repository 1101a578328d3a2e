import CdGraphics.Command.Disk
import CdGraphics.Command.Run
import Mathlib.Tactic.SplitIfs

/-!
# Pictures on a disk

A path that leads to a file leads through directories to its last name (`Leads`), and where it leads
depends on these directories alone. Directories that are made on the way change nothing that is
there (`Grows`), and a picture that is written changes the entry at its own path alone. So pictures
that are written under numbers, one after another, are all found there in the end, each by its
number (`Stored.concat`).
-/

namespace CdGraphics

namespace Path

/-- A name without a slash is the last of the names of a path into a directory. -/
theorem names_join (directory : String) {name : String} (h : '/' ∉ name.toList) :
    ∃ before, names (join directory name) = before ++ [name] := by
  have last : ∀ cs : List Char,
      names (String.ofList (cs ++ '/' :: name.toList)) = names (String.ofList cs) ++ [name] := by
    intro cs
    unfold names
    rw [String.toList_ofList, List.splitOn_append_cons_self, List.splitOn_eq_singleton h]
    simp
  unfold join
  split_ifs with hd
  · rcases hd with hslash | hempty
    · obtain ⟨cs, hcs⟩ := List.getLast?_eq_some_iff.1 hslash
      have hjoin : directory ++ name = String.ofList (cs ++ '/' :: name.toList) := by
        apply String.toList_injective
        simp [hcs]
      exact ⟨_, hjoin ▸ last cs⟩
    · rw [String.isEmpty_iff.1 hempty, String.empty_append]
      refine ⟨[], ?_⟩
      unfold names
      rw [List.splitOn_eq_singleton h]
      simp
  · have hjoin : directory ++ "/" ++ name
        = String.ofList (directory.toList ++ '/' :: name.toList) := by
      apply String.toList_injective
      simp
    exact ⟨_, hjoin ▸ last directory.toList⟩

end Path

namespace Command

theorem toList_frameName (number : Nat) : ∃ zeros : Nat, (frameName number).toList
    = "frame_".toList ++ (List.replicate zeros '0' ++ Nat.toDigits 10 number) ++ ".png".toList := by
  refine ⟨6 - (toString number).length, ?_⟩
  simp [frameName]

example : frameName 1 = "frame_000001.png" := by decide +kernel

theorem slash_not_mem_frameName (number : Nat) : '/' ∉ (frameName number).toList := by
  obtain ⟨zeros, h⟩ := toList_frameName number
  rw [h]
  have hdigits : '/' ∉ Nat.toDigits 10 number := fun hd =>
    absurd (Nat.isDigit_of_mem_toDigits (by decide) (by decide) hd) (by decide)
  simp [hdigits]

theorem frameName_injective {a b : Nat} (h : frameName a = frameName b) : a = b := by
  obtain ⟨m, hm⟩ := toList_frameName a
  obtain ⟨n, hn⟩ := toList_frameName b
  have digits := hm.symm.trans ((congrArg String.toList h).trans hn)
  rw [List.append_left_inj, List.append_right_inj] at digits
  have value := congrArg (fun cs => Nat.ofDigitChars 10 cs 0) digits
  simpa [Nat.ofDigitChars_append, Nat.ofDigitChars_replicate_zero,
    Nat.ofDigitChars_ten_toDigits] using value

/-- The path of the file of a frame's number. -/
def framePath (outDir : String) (number : Nat) : String := Path.join outDir (frameName number)

end Command

namespace Disk

variable {d d' : Disk} {here rest target : List String} {name path : String} {e : Entry}
  {place : Place}

theorem get?_put (hn : target ≠ []) (names : List String) :
    (d.put target e).get? names = if names = target then some e else d.get? names := by
  unfold get? put
  by_cases hnames : names = []
  · subst hnames
    rw [if_pos rfl, if_neg hn.symm]
    rfl
  · rw [if_neg hnames, if_neg hnames, List.find?_append, List.find?_filter]
    split_ifs with heq
    · subst heq
      have hnone : d.entries.find? (fun a => decide ((a.1 != names) = true ∧ (a.1 == names) = true))
          = none := by
        simp [List.find?_eq_none]
      rw [hnone]
      simp
    · have hsame : (fun a : List String × Entry =>
          decide ((a.1 != target) = true ∧ (a.1 == names) = true)) = fun a => a.1 == names := by
        funext a
        rw [Bool.eq_iff_iff]
        simp only [decide_eq_true_eq, bne_iff_ne, beq_iff_eq]
        exact and_iff_right_of_imp fun ha => by rw [ha]; exact heq
      rw [hsame]
      cases d.entries.find? fun a => a.1 == names with
      | some x => rfl
      | none => simp [Ne.symm heq]

/-! ## Where paths lead -/

def Place.names : Place → List String
  | present names _ | absent names => names

def Place.entry? : Place → Option Entry
  | present _ entry => some entry
  | absent _ => none

/-- The text names an entry of a directory. -/
def IsName (name : String) : Prop :=
  ¬ (name = "" ∨ name = ".") ∧ name ≠ ".." ∧ name.utf8ByteSize ≤ longestName

instance (name : String) : Decidable (IsName name) := inferInstanceAs (Decidable (_ ∧ _ ∧ _))

/-- From a directory a row of names leads, through directories, to the last of them. -/
inductive Leads (d : Disk) : (here rest target : List String) → Prop
  | last {here : List String} {name : String} : IsName name →
      Leads d here [name] (here ++ [name])
  | stay {here rest target : List String} {name : String} : name = "" ∨ name = "." →
      Leads d here rest target → Leads d here (name :: rest) target
  | up {here rest target : List String} :
      Leads d here.dropLast rest target → Leads d here (".." :: rest) target
  | down {here rest target : List String} {name : String} : IsName name →
      d.get? (here ++ [name]) = some .directory → Leads d (here ++ [name]) rest target →
      Leads d here (name :: rest) target

theorem Leads.mono (hd : ∀ names, d.get? names = some .directory → d'.get? names = some .directory)
    (h : Leads d here rest target) : Leads d' here rest target := by
  induction h with
  | last hname => exact .last hname
  | stay hdot _ ih => exact .stay hdot ih
  | up _ ih => exact .up ih
  | down hname hget _ ih => exact .down hname (hd _ hget) ih

theorem Leads.exists_last (h : Leads d here rest target) :
    ∃ before name, target = before ++ [name] ∧ rest.getLast? = some name := by
  induction h with
  | last => exact ⟨_, _, rfl, rfl⟩
  | stay _ _ ih | up _ ih | down _ _ _ ih =>
    obtain ⟨before, last, rfl, hlast⟩ := ih
    refine ⟨before, last, rfl, ?_⟩
    rw [List.getLast?_cons, hlast, Option.getD_some]

theorem Leads.unique {target' : List String} (h : Leads d here rest target)
    (h' : Leads d here rest target') : target = target' := by
  induction h with
  | last hname =>
    obtain ⟨hdot, hup, -⟩ := hname
    cases h' with
    | last => rfl
    | stay hdot' => exact absurd hdot' hdot
    | up => exact absurd rfl hup
    | down _ _ h' => cases h'
  | stay hdot _ ih =>
    cases h' with
    | last hname => exact absurd hdot hname.1
    | stay _ h' => exact ih h'
    | up => exact absurd hdot (by decide)
    | down hname => exact absurd hdot hname.1
  | up _ ih =>
    cases h' with
    | last hname => exact absurd rfl hname.2.1
    | stay hdot => exact absurd hdot (by decide)
    | up h' => exact ih h'
    | down hname => exact absurd rfl hname.2.1
  | down hname _ h ih =>
    cases h' with
    | last => cases h
    | stay hdot => exact absurd hdot hname.1
    | up => exact absurd rfl hname.2.1
    | down _ _ h' => exact ih h'

theorem walk_of_file (he : e ≠ .directory) :
    d.walk here e (name :: rest) = .error .notDirectory := by
  unfold walk
  rw [if_pos he]

theorem walk_of_isName (hname : IsName name) : d.walk here .directory (name :: rest)
    = match d.get? (here ++ [name]) with
      | some entry => d.walk (here ++ [name]) entry rest
      | none => if rest.isEmpty then .ok (.absent (here ++ [name])) else .error .notFound := by
  obtain ⟨hdot, hup, hlong⟩ := hname
  rw [walk, if_neg (not_not_intro rfl), if_neg hdot, if_neg hup]
  exact if_neg (Nat.not_lt_of_le hlong)

theorem Leads.walk_eq (h : Leads d here rest target) (hget : d.get? target = some e) :
    d.walk here .directory rest = .ok (.present target e) := by
  induction h with
  | last hname =>
    rw [walk_of_isName hname, hget]
    rfl
  | stay hdot _ ih =>
    rw [walk, if_neg (not_not_intro rfl), if_pos hdot]
    exact ih hget
  | up _ ih =>
    rw [walk, if_neg (not_not_intro rfl), if_neg (by decide), if_pos rfl]
    exact ih hget
  | down hname hdir _ ih =>
    rw [walk_of_isName hname, hdir]
    exact ih hget

theorem leads_of_walk : ∀ {rest here : List String} {place : Place},
    d.walk here .directory rest = .ok place → place.entry? ≠ some .directory →
      Leads d here rest place.names ∧ d.get? place.names = place.entry?
  | [], here, place, h, hplace => by
    cases h
    exact absurd rfl hplace
  | name :: rest, here, place, h, hplace => by
    by_cases hdot : name = "" ∨ name = "."
    · rw [walk, if_neg (not_not_intro rfl), if_pos hdot] at h
      exact (leads_of_walk h hplace).imp_left (.stay hdot)
    by_cases hup : name = ".."
    · subst hup
      rw [walk, if_neg (not_not_intro rfl), if_neg (by decide), if_pos rfl] at h
      exact (leads_of_walk h hplace).imp_left .up
    rcases Nat.lt_or_ge longestName name.utf8ByteSize with hlong | hlong
    · rw [walk, if_neg (not_not_intro rfl), if_neg hdot, if_neg hup, if_pos hlong] at h
      cases h
    have hname : IsName name := ⟨hdot, hup, hlong⟩
    rw [walk_of_isName hname] at h
    rcases hget : d.get? (here ++ [name]) with _ | entry
    · rw [hget] at h
      simp only at h
      split_ifs at h with hend
      cases h
      rw [List.isEmpty_iff.1 hend]
      exact ⟨.last hname, hget⟩
    · rw [hget] at h
      by_cases hentry : entry = .directory
      · subst hentry
        exact (leads_of_walk h hplace).imp_left (.down hname hget)
      · -- A file ends the walk, since nothing lies in it.
        cases rest with
        | nil =>
          cases h
          exact ⟨.last hname, hget⟩
        | cons next rest =>
          simp only [walk_of_file hentry] at h
          cases h

def start (d : Disk) (path : String) : List String :=
  if path.toList.head? = some '/' then [] else d.workingDirectory

/-- A path leads to names through directories. -/
structure Reaches (d : Disk) (path : String) (target : List String) : Prop where
  checked : checkPath path = .ok ()
  leads : Leads d (d.start path) (Path.names path) target

theorem Reaches.find_eq (h : Reaches d path target) (hget : d.get? target = some e) :
    d.find path = .ok (.present target e) :=
  bind_eq_ok.2 ⟨(), h.checked, h.leads.walk_eq hget⟩

theorem reaches_of_find (h : d.find path = .ok place) (hplace : place.entry? ≠ some .directory) :
    Reaches d path place.names ∧ d.get? place.names = place.entry? := by
  obtain ⟨⟨⟩, hcheck, hwalk⟩ := bind_eq_ok.1 h
  exact (leads_of_walk hwalk hplace).imp_left fun hl => ⟨hcheck, hl⟩

/-- The path of an entry of the root. -/
structure AtRoot (path name : String) : Prop where
  checked : checkPath path = .ok ()
  absolute : path.toList.head? = some '/'
  not_slash : path.toList.getLast? ≠ some '/'
  parent : Path.parent? path = some "/"
  names : Path.names path = ["", name]
  isName : IsName name

theorem AtRoot.reaches (h : AtRoot path name) (d : Disk) : Reaches d path [name] := by
  refine ⟨h.checked, ?_⟩
  rw [start, if_pos h.absolute, h.names]
  exact .stay (.inl rfl) (.last h.isName)

theorem Reaches.ne_nil (h : Reaches d path target) : target ≠ [] := by
  obtain ⟨before, name, rfl, -⟩ := h.leads.exists_last
  simp

theorem Reaches.ne_of_framePath {outDir : String} {a b : Nat} {target' : List String}
    (h : Reaches d (Command.framePath outDir a) target)
    (h' : Reaches d' (Command.framePath outDir b) target') (hab : a ≠ b) : target ≠ target' := by
  have last : ∀ {d : Disk} {number : Nat} {target : List String},
      Reaches d (Command.framePath outDir number) target →
        target.getLast? = some (Command.frameName number) := by
    intro d number target h
    obtain ⟨before, name, rfl, hname⟩ := h.leads.exists_last
    obtain ⟨before', hjoin⟩ := Path.names_join outDir (Command.slash_not_mem_frameName number)
    rw [Command.framePath, hjoin, List.getLast?_concat] at hname
    rw [List.getLast?_concat, hname]
  rintro rfl
  have hnames := (last h).symm.trans (last h')
  exact hab (Command.frameName_injective (Option.some.inj hnames))

/-! ## Changes -/

/-- Directories have been made, and nothing else has changed. -/
structure Grows (d d' : Disk) : Prop where
  workingDirectory : d'.workingDirectory = d.workingDirectory
  get? : ∀ names, d'.get? names = d.get? names
    ∨ d.get? names = none ∧ d'.get? names = some .directory

theorem Grows.refl (d : Disk) : Grows d d := ⟨rfl, fun _ => .inl rfl⟩

theorem Grows.get?_eq (h : Grows d d') {names : List String} (hget : d.get? names = some e) :
    d'.get? names = some e := by
  rcases h.get? names with heq | ⟨hnone, -⟩
  · rw [heq, hget]
  · rw [hget] at hnone
    cases hnone

theorem Grows.trans {d'' : Disk} (h : Grows d d') (h' : Grows d' d'') : Grows d d'' := by
  refine ⟨h'.workingDirectory.trans h.workingDirectory, fun names => ?_⟩
  rcases h.get? names with heq | ⟨hnone, hdir⟩
  · rw [← heq]
    exact h'.get? names
  · exact .inr ⟨hnone, h'.get?_eq hdir⟩

theorem Reaches.keep (h : Reaches d path target)
    (hw : d'.workingDirectory = d.workingDirectory)
    (hd : ∀ names, d.get? names = some .directory → d'.get? names = some .directory) :
    Reaches d' path target := by
  have hstart : d'.start path = d.start path := by
    unfold start
    rw [hw]
  exact ⟨h.checked, hstart ▸ h.leads.mono hd⟩

theorem Grows.reaches (hg : Grows d d') (h : Reaches d path target) : Reaches d' path target :=
  h.keep hg.workingDirectory fun _ => hg.get?_eq

theorem grows_of_makeDirectory (h : d.makeDirectory path = .ok d') : Grows d d' := by
  obtain ⟨place, hplace, h⟩ := bind_eq_ok.1 h
  cases place with
  | present names entry => cases h
  | absent names =>
    cases h
    obtain ⟨-, -, hwalk⟩ := bind_eq_ok.1 hplace
    obtain ⟨hleads, hget⟩ := leads_of_walk hwalk (by simp [Place.entry?])
    obtain ⟨before, name, hnames, -⟩ := hleads.exists_last
    have hne : names ≠ [] := by
      rw [show names = before ++ [name] from hnames]
      simp
    refine ⟨rfl, fun names' => ?_⟩
    rw [get?_put hne]
    split_ifs with heq
    · rw [heq]
      exact .inr ⟨hget, rfl⟩
    · exact .inl rfl

/-- A picture is written where no directory is, and changes nothing but that. -/
theorem writePicture_cases {picture : Frame} (h : d.writePicture path picture = .ok d') :
    ∃ target, Reaches d path target ∧ d.get? target ≠ some .directory
      ∧ d' = d.put target (.picture picture) := by
  unfold writePicture at h
  split_ifs at h with hslash
  · obtain ⟨_, -, h⟩ := bind_eq_ok.1 h
    cases h
  · obtain ⟨place, hplace, h⟩ := bind_eq_ok.1 h
    have leaf : place.entry? ≠ some .directory →
        d' = d.put place.names (.picture picture) → ∃ target, Reaches d path target
          ∧ d.get? target ≠ some .directory ∧ d' = d.put target (.picture picture) := by
      intro hentry hd'
      obtain ⟨hreaches, hget⟩ := reaches_of_find hplace hentry
      exact ⟨place.names, hreaches, hget ▸ hentry, hd'⟩
    cases place with
    | absent names =>
      cases h
      exact leaf (by simp [Place.entry?]) rfl
    | present names entry =>
      cases entry with
      | directory => cases h
      | file bytes =>
        cases h
        exact leaf (by simp [Place.entry?]) rfl
      | picture old =>
        cases h
        exact leaf (by simp [Place.entry?]) rfl

theorem writePicture_of_leaf (h : Reaches d path target) (hslash : path.toList.getLast? ≠ some '/')
    (hget : d.get? target = some e) (he : e ≠ .directory) (picture : Frame) :
    d.writePicture path picture = .ok (d.put target (.picture picture)) := by
  rw [writePicture, if_neg hslash, h.find_eq hget]
  cases e with
  | directory => exact absurd rfl he
  | file => rfl
  | picture => rfl

theorem reaches_put (h : Reaches d path target) {target' : List String} (hn : target' ≠ [])
    (hget : d.get? target' ≠ some .directory) : Reaches (d.put target' e) path target := by
  refine h.keep rfl fun names hdir => ?_
  rw [get?_put hn, if_neg, hdir]
  rintro rfl
  exact hget hdir

/-- The picture that a path leads to. -/
def picture? (d : Disk) (path : String) : Option Frame :=
  match d.find path with
  | .ok (.present _ (.picture picture)) => some picture
  | _ => none

theorem picture?_eq_some {picture : Frame} : d.picture? path = some picture ↔
    ∃ target, Reaches d path target ∧ d.get? target = some (.picture picture) := by
  constructor
  · intro h
    unfold picture? at h
    split at h
    · rename_i names found hfind
      cases h
      obtain ⟨hreaches, hget⟩ := reaches_of_find hfind (by simp [Place.entry?])
      exact ⟨names, hreaches, hget⟩
    · cases h
  · rintro ⟨target, hreaches, hget⟩
    unfold picture?
    rw [hreaches.find_eq hget]

theorem picture?_of_writePicture {picture : Frame} (h : d.writePicture path picture = .ok d') :
    d'.picture? path = some picture := by
  obtain ⟨target, hreaches, hget, rfl⟩ := writePicture_cases h
  refine picture?_eq_some.2 ⟨target, reaches_put hreaches hreaches.ne_nil hget, ?_⟩
  rw [get?_put hreaches.ne_nil, if_pos rfl]

/-! ## Numbered pictures -/

/-- Pictures that were written into a directory, one after another under their numbers, since the
disk was `d₀`. -/
structure Stored (outDir : String) (d₀ d : Disk) (pictures : List Frame) : Prop where
  /-- Each is found under its number. -/
  picture : ∀ k (hk : k < pictures.length),
    d.picture? (Command.framePath outDir k) = some pictures[k]
  /-- Whatever else has changed is a directory that was made, and no directory has changed. -/
  others : ∀ names, d.get? names = d₀.get? names
    ∨ d₀.get? names = none ∧ d.get? names = some .directory
    ∨ d₀.get? names ≠ some .directory
      ∧ ∃ k, k < pictures.length ∧ Reaches d (Command.framePath outDir k) names

variable {outDir : String} {d₀ : Disk} {pictures : List Frame}

theorem stored_nil (h : Grows d₀ d) : Stored outDir d₀ d [] where
  picture k hk := absurd hk (Nat.not_lt_zero k)
  others names := by
    rcases h.get? names with heq | hmade
    · exact .inl heq
    · exact .inr (.inl hmade)

theorem Stored.grow (h : Stored outDir d₀ d pictures) (hg : Grows d d') :
    Stored outDir d₀ d' pictures where
  picture k hk := by
    obtain ⟨target, hreaches, hget⟩ := picture?_eq_some.1 (h.picture k hk)
    exact picture?_eq_some.2 ⟨target, hg.reaches hreaches, hg.get?_eq hget⟩
  others names := by
    rcases h.others names with heq | ⟨hnone, hdir⟩ | ⟨hfile, k, hk, hreaches⟩
    · rw [← heq]
      rcases hg.get? names with heq' | hmade
      · exact .inl heq'
      · exact .inr (.inl hmade)
    · exact .inr (.inl ⟨hnone, hg.get?_eq hdir⟩)
    · exact .inr (.inr ⟨hfile, k, hk, hg.reaches hreaches⟩)

theorem Stored.get?_directory {names : List String} (h : Stored outDir d₀ d pictures)
    (hget : d₀.get? names = some .directory) : d.get? names = some .directory := by
  rcases h.others names with heq | ⟨hnone, -⟩ | ⟨hfile, -⟩
  · exact heq.trans hget
  · rw [hnone] at hget
    cases hget
  · exact absurd hget hfile

/-- The next picture that is written joins them. -/
theorem Stored.concat {picture : Frame} (h : Stored outDir d₀ d pictures)
    (hw : d.writePicture (Command.framePath outDir pictures.length) picture = .ok d') :
    Stored outDir d₀ d' (pictures ++ [picture]) := by
  have hnew := picture?_of_writePicture hw
  obtain ⟨target, hreaches, hget, rfl⟩ := writePicture_cases hw
  have keep : ∀ {path names}, Reaches d path names →
      Reaches (d.put target (.picture picture)) path names :=
    fun hr => reaches_put hr hreaches.ne_nil hget
  refine ⟨fun k hk => ?_, fun names => ?_⟩
  · rw [List.length_append, List.length_singleton] at hk
    rcases Nat.lt_succ_iff_lt_or_eq.1 hk with hlt | rfl
    · obtain ⟨target', hreaches', hget'⟩ := picture?_eq_some.1 (h.picture k hlt)
      rw [List.getElem_append_left hlt]
      refine picture?_eq_some.2 ⟨target', keep hreaches', ?_⟩
      have hne := hreaches'.ne_of_framePath hreaches (Nat.ne_of_lt hlt)
      rw [get?_put hreaches.ne_nil, if_neg hne, hget']
    · rw [hnew]
      simp
  · rw [List.length_append, List.length_singleton]
    by_cases heq : names = target
    · subst heq
      have hfile : d₀.get? names ≠ some .directory := fun hdir => hget (h.get?_directory hdir)
      exact .inr (.inr ⟨hfile, pictures.length, Nat.lt_succ_self _, keep hreaches⟩)
    · rw [get?_put hreaches.ne_nil, if_neg heq]
      rcases h.others names with hsame | hmade | ⟨hfile, k, hk, hr⟩
      · exact .inl hsame
      · exact .inr (.inl hmade)
      · exact .inr (.inr ⟨hfile, k, Nat.lt_succ_of_lt hk, keep hr⟩)

/-- What was a file before pictures were written is a file or a picture afterwards. -/
theorem Stored.exists_leaf {names : List String} (h : Stored outDir d₀ d pictures)
    (hget : d₀.get? names = some e) (he : e ≠ .directory) :
    ∃ e', d.get? names = some e' ∧ e' ≠ .directory := by
  rcases h.others names with heq | ⟨hnone, -⟩ | ⟨-, k, hk, hreaches⟩
  · exact ⟨e, heq.trans hget, he⟩
  · rw [hnone] at hget
    cases hget
  · obtain ⟨target, htarget, hpicture⟩ := picture?_eq_some.1 (h.picture k hk)
    rw [htarget.leads.unique hreaches.leads] at hpicture
    exact ⟨_, hpicture, Entry.noConfusion⟩

/-- No picture was written over a directory in the root. -/
theorem Stored.length_le {name : String} {k : Nat} (h : Stored outDir d₀ d pictures)
    (hpath : AtRoot (Command.framePath outDir k) name) (hget : d₀.get? [name] = some .directory) :
    pictures.length ≤ k := by
  refine Nat.le_of_not_lt fun hk => ?_
  obtain ⟨target, hreaches, hpicture⟩ := picture?_eq_some.1 (h.picture k hk)
  rw [hreaches.leads.unique (hpath.reaches d).leads, h.get?_directory hget] at hpicture
  cases hpicture

/-- None of a greater number was written into the root. -/
theorem Stored.picture?_eq_none {name : String} {k : Nat} (h : Stored outDir d₀ d pictures)
    (hk : pictures.length ≤ k) (hpath : AtRoot (Command.framePath outDir k) name)
    (hnone : d₀.picture? (Command.framePath outDir k) = none) :
    d.picture? (Command.framePath outDir k) = none := by
  refine Option.eq_none_iff_forall_not_mem.2 fun picture hpicture => ?_
  obtain ⟨target, hreaches, hget⟩ := picture?_eq_some.1 hpicture
  obtain rfl := hreaches.leads.unique (hpath.reaches d).leads
  rcases h.others [name] with heq | ⟨-, hdir⟩ | ⟨-, j, hj, hj'⟩
  · rw [picture?_eq_some.2 ⟨[name], hpath.reaches d₀, heq ▸ hget⟩] at hnone
    cases hnone
  · rw [hdir] at hget
    cases hget
  · exact hj'.ne_of_framePath hreaches (Nat.ne_of_lt (Nat.lt_of_lt_of_le hj hk)) rfl

end Disk

end CdGraphics
