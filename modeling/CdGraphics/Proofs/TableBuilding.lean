import CdGraphics.Proofs.Offset

/-!
# What a row of steps builds

A step in building a table either refuses, which only registering a code of more than six bits does
(`Step.refusal?`), or has a say in what some opcodes build (`Step.given?`) and leaves all others.
`build_cases` carries that from one step to a row of them: the first refusal is the outcome, and
where there is none each opcode is as its last step has it, or as it was. Looking up, listing and
decoding all read that one table (`build_registers`).
-/

namespace CdGraphics

namespace OpcodeTable

variable {t : OpcodeTable} {opcode : UInt8}

/-- The error with which a step fails on every table. -/
def Step.refusal? : Step → Option Error
  | .register opcode _ =>
    if 64 ≤ opcode.toNat then
      some (.validation s!"opcode {opcode.toNat} does not fit in 6 bits")
    else none
  | .erase _ => none
  | .verticalSource _ => none

/-- What a step has an opcode build from then on, if it is about that opcode. -/
def Step.given? (opcode : UInt8) : Step → Option (Option Constructor)
  | .register code build => if code = opcode then some (some build) else none
  | .erase code => if code = opcode then some none else none
  | .verticalSource source =>
    if opcode = 20 then some (some (Instruction.ofPayload source .scrollPreset))
    else if opcode = 24 then some (some (Instruction.ofPayload source .scrollCopy))
    else none

/-- The steps' last word on an opcode, or else what the table builds already. -/
def lastEntry (t : OpcodeTable) (steps : List Step) (opcode : UInt8) : Option Constructor :=
  (steps.reverse.findSome? (·.given? opcode)).getD (t.get? opcode)

theorem lastEntry_cons {t t' : OpcodeTable} {s : Step} (steps : List Step)
    (h : t'.get? opcode = (s.given? opcode).getD (t.get? opcode)) :
    t'.lastEntry steps opcode = t.lastEntry (s :: steps) opcode := by
  rw [lastEntry, lastEntry, List.reverse_cons, List.findSome?_append, List.findSome?_singleton, h]
  cases steps.reverse.findSome? (·.given? opcode) <;> rfl

theorem get?_of_le (h : 64 ≤ opcode.toNat) : t.get? opcode = none :=
  dif_neg (Nat.not_lt_of_le h)

/-! ## Building -/

theorem get?_withVerticalSource (t : OpcodeTable) (source : VerticalSource) (opcode : UInt8) :
    (t.withVerticalSource source).get? opcode
      = ((Step.verticalSource source).given? opcode).getD (t.get? opcode) := by
  have hcopy : (Opcode.scrollCopy.code = opcode ∧ opcode.toNat < opcodeCount) ↔ opcode = 24 :=
    ⟨fun h => h.1.symm, fun h => h ▸ by decide⟩
  have hpreset : (Opcode.scrollPreset.code = opcode ∧ opcode.toNat < opcodeCount)
      ↔ opcode = 20 := ⟨fun h => h.1.symm, fun h => h ▸ by decide⟩
  simp only [withVerticalSource, get?_set, hcopy, hpreset, Step.given?]
  split_ifs with h24 h20
  · rw [h24] at h20
    exact absurd h20 (by decide)
  · rfl
  · rfl
  · rfl

/-- All that a step can do. -/
theorem step_cases (t : OpcodeTable) (s : Step) :
    (∃ e, s.refusal? = some e ∧ t.step s = .error e)
      ∨ (s.refusal? = none ∧ ∃ t', t.step s = .ok t' ∧
        ∀ opcode : UInt8, opcode.toNat < 64 →
          t'.get? opcode = (s.given? opcode).getD (t.get? opcode)) := by
  cases s with
  | register code build =>
    rcases Nat.lt_or_ge code.toNat 64 with hfits | hwide
    · refine .inr ⟨if_neg (Nat.not_le_of_lt hfits), _, if_pos hfits, fun opcode hopcode => ?_⟩
      rw [get?_set, Step.given?]
      by_cases h : code = opcode <;> simp [h, hopcode]
    · exact .inl ⟨_, if_pos hwide, if_neg (Nat.not_lt_of_le hwide)⟩
  | erase code =>
    refine .inr ⟨rfl, _, rfl, fun opcode hopcode => ?_⟩
    rw [erase, get?_set, Step.given?]
    by_cases h : code = opcode <;> simp [h, hopcode]
  | verticalSource source =>
    exact .inr ⟨rfl, _, rfl, fun opcode _ => get?_withVerticalSource t source opcode⟩

/-- A row of steps fails as the first of them that refuses, or leads to a table in which each opcode
is as the last step about it has it. -/
theorem build_cases : ∀ (steps : List Step) (t : OpcodeTable),
    (∃ e, steps.findSome? Step.refusal? = some e ∧ t.build steps = .error e)
      ∨ (steps.findSome? Step.refusal? = none ∧ ∃ t', t.build steps = .ok t' ∧
        ∀ opcode : UInt8, opcode.toNat < 64 → t'.get? opcode = t.lastEntry steps opcode)
  | [], t => .inr ⟨rfl, t, rfl, fun _ _ => rfl⟩
  | s :: rest, t => by
    rw [List.findSome?_cons, build, List.foldlM_cons]
    rcases step_cases t s with ⟨e, hs, hstep⟩ | ⟨hs, t', hstep, hentry⟩
    · rw [hs, hstep]
      exact .inl ⟨e, rfl, rfl⟩
    · rw [hs, hstep]
      rcases build_cases rest t' with hfail | ⟨hnone, t'', hbuild, hlast⟩
      · exact .inl hfail
      · refine .inr ⟨hnone, t'', hbuild, fun opcode hopcode => ?_⟩
        rw [hlast opcode hopcode, lastEntry_cons rest (hentry opcode hopcode)]

theorem findSome?_refusal_eq_none_iff (steps : List Step) :
    steps.findSome? Step.refusal? = none
      ↔ ∀ opcode build, .register opcode build ∈ steps → opcode.toNat < 64 := by
  rw [List.findSome?_eq_none_iff]
  constructor
  · intro h opcode build hmem
    by_contra hwide
    have hrefusal := h _ hmem
    rw [Step.refusal?, if_pos (Nat.le_of_not_lt hwide)] at hrefusal
    cases hrefusal
  · intro h s hmem
    cases s with
    | register opcode build => exact if_neg (Nat.not_le_of_lt (h opcode build hmem))
    | erase opcode => rfl
    | verticalSource source => rfl

theorem eq_validation_of_refusal {s : Step} {e : Error} (h : s.refusal? = some e) :
    ∃ text, e = .validation text := by
  cases s with
  | register opcode build =>
    rw [Step.refusal?] at h
    split_ifs at h
    exact ⟨_, (Option.some.inj h).symm⟩
  | erase opcode => cases h
  | verticalSource source => cases h

/-! ## Listing -/

theorem lt_of_contains (h : t.contains opcode = true) : opcode.toNat < 64 := by
  by_contra hwide
  rw [contains, get?_of_le (Nat.le_of_not_lt hwide)] at h
  cases h

theorem mem_opcodes : opcode ∈ t.opcodes ↔ t.contains opcode = true := by
  rw [opcodes, List.mem_filter, and_iff_right_iff_imp]
  intro h
  exact List.mem_map.2 ⟨opcode.toNat, List.mem_range.2 (lt_of_contains h), UInt8.ofNat_toNat⟩

theorem pairwise_opcodes (t : OpcodeTable) : t.opcodes.Pairwise (· < ·) := by
  refine List.Pairwise.filter _ (List.pairwise_map.2 ?_)
  refine List.pairwise_lt_range.imp_of_mem fun {a b} ha hb hab => ?_
  have ha := List.mem_range.1 ha
  have hb := List.mem_range.1 hb
  rw [UInt8.lt_iff_toNat_lt, UInt8.toNat_ofNat', UInt8.toNat_ofNat']
  simp only [opcodeCount] at ha hb
  omega

/-- The table holds for each opcode the last word of the steps, or what the base holds, and nothing
for a code of more than six bits; its list ascends and has just the registered opcodes; and of the
graphics packets it reports just those of other opcodes. -/
structure Registers (base : OpcodeTable) (steps : List Step) (t : OpcodeTable) : Prop where
  wide : ∀ opcode : UInt8, 64 ≤ opcode.toNat → t.get? opcode = none
  get?_eq : ∀ opcode : UInt8, opcode.toNat < 64 → t.get? opcode = base.lastEntry steps opcode
  ascending : t.opcodes.Pairwise (· < ·)
  listed : ∀ opcode, opcode ∈ t.opcodes ↔ ∃ build, t.get? opcode = some build
  reported : ∀ (p : Packet) (index : Option Nat), p.isGraphics = true → (t.decode p index).2
    = if t.contains p.opcode then [] else [.unknownOpcode index p.opcode]

theorem registers_of_get? {base t : OpcodeTable} {steps : List Step}
    (h : ∀ opcode : UInt8, opcode.toNat < 64 → t.get? opcode = base.lastEntry steps opcode) :
    Registers base steps t := by
  refine ⟨fun opcode => get?_of_le, h, pairwise_opcodes t, fun opcode => ?_, fun p index hp => ?_⟩
  · rw [mem_opcodes, contains, Option.isSome_iff_exists]
  · have hcommand : p.command = graphicsCommand := by simpa [Packet.isGraphics] using hp
    rw [decode_snd, contains]
    cases t.get? p.opcode <;> simp [hcommand]

/-- Steps on any table, whatever opcodes and constructors they register, fail with a validation
error just where one of them registers a code of more than six bits, and then as the first that
does. Else they lead to a table that holds for each opcode what the last step about it says, a
choice of the vertical source being about both scrolls, or what was there before. -/
theorem build_registers (base : OpcodeTable) (steps : List Step) :
    ((∃ text, base.build steps = .error (.validation text))
        ↔ ∃ opcode build, .register opcode build ∈ steps ∧ 64 ≤ opcode.toNat)
      ∧ (∀ e, base.build steps = .error e ↔ steps.findSome? Step.refusal? = some e)
      ∧ ((∀ opcode build, .register opcode build ∈ steps → opcode.toNat < 64) →
        ∃ t, base.build steps = .ok t ∧ Registers base steps t) := by
  have hnone_iff := findSome?_refusal_eq_none_iff steps
  rcases build_cases steps base with ⟨e, hsome, hbuild⟩ | ⟨hnone, t, hbuild, hlast⟩
  · have hwide : ¬ ∀ opcode build, .register opcode build ∈ steps → opcode.toNat < 64 := by
      rw [← hnone_iff, hsome]
      exact nofun
    obtain ⟨s, -, hs⟩ := List.exists_of_findSome?_eq_some hsome
    obtain ⟨text, rfl⟩ := eq_validation_of_refusal hs
    refine ⟨iff_of_true ⟨text, hbuild⟩ ?_, fun e => ?_, fun hfits => absurd hfits hwide⟩
    · simpa only [not_forall, exists_prop, Nat.not_lt] using hwide
    · rw [hbuild, hsome, Except.error.injEq, Option.some.injEq]
  · have hfits := hnone_iff.1 hnone
    refine ⟨iff_of_false ?_ ?_, fun e => ?_, fun _ => ⟨t, hbuild, registers_of_get? hlast⟩⟩
    · rintro ⟨text, herror⟩
      rw [hbuild] at herror
      cases herror
    · rintro ⟨opcode, build, hmem, hle⟩
      exact absurd (hfits opcode build hmem) (Nat.not_lt_of_le hle)
    · rw [hbuild, hnone]
      exact iff_of_false nofun nofun

/-- Both scrolls, of which one was dropped and one replaced, are back once their source is chosen;
dropping a code beyond the table does nothing, and registering one fails. -/
theorem build_registers_back :
    let noop : Constructor := fun _ => .noop
    let steps : List Step :=
      [.erase 20, .register 24 noop, .register 5 noop, .verticalSource .horizontalField,
        .erase 99, .erase 38]
    (∃ t, standard.build steps = .ok t ∧ Registers standard steps t
        ∧ t.get? 20 = some (Instruction.ofPayload .horizontalField .scrollPreset)
        ∧ t.get? 24 = some (Instruction.ofPayload .horizontalField .scrollCopy)
        ∧ t.get? 5 = some noop ∧ t.get? 38 = none
        ∧ t.opcodes = [0, 1, 2, 5, 6, 20, 24, 28, 30, 31])
      ∧ standard.build (steps ++ [.register 64 noop, .register 70 noop])
        = .error (.validation "opcode 64 does not fit in 6 bits") := by
  intro noop steps
  obtain ⟨-, -, hfits⟩ := build_registers standard steps
  obtain ⟨t, hbuild, hregisters⟩ := hfits (by
    intro opcode build hmem
    simp only [steps, List.mem_cons, List.not_mem_nil, reduceCtorEq, or_false, false_or,
      Step.register.injEq] at hmem
    rcases hmem with ⟨rfl, -⟩ | ⟨rfl, -⟩ <;> decide)
  have hget := hregisters.get?_eq
  refine ⟨⟨t, hbuild, hregisters, ?_, ?_, ?_, ?_, ?_⟩, ?_⟩
  · exact hget 20 (by decide)
  · exact hget 24 (by decide)
  · exact hget 5 (by decide)
  · exact hget 38 (by decide)
  · have hlist : (standard.build steps).toOption.map opcodes
        = some [0, 1, 2, 5, 6, 20, 24, 28, 30, 31] := by decide +kernel
    rw [hbuild] at hlist
    exact Option.some.inj hlist
  · exact ((build_registers standard _).2.1 _).2 rfl

end OpcodeTable

end CdGraphics
