import CdGraphics.Proofs.Advance
import CdGraphics.Proofs.Drawn
import CdGraphics.Proofs.Pass
import CdGraphics.Proofs.Safety

/-!
# Rewinding

A reset leaves the palette as it is and clears all else, so what follows it need not be what a new
clock shows. The two differ in the palette alone, since nothing else that is drawn depends on it
(`drawnAll_recolored`), and there in the entries alone that nothing has been loaded into since: an
entry that was written holds what its last writer put there (`run_rewound_eq_fresh`).
-/

namespace CdGraphics

/-- Some instruction of the list loads the half of the palette that holds an entry. -/
def LoadsEntry (l : List Instruction) (k : Nat) : Prop :=
  ∃ half colors, .loadColors half colors ∈ l ∧ half.base ≤ k ∧ k < half.base + 8

namespace Raster

theorem findSome?_loaded_eq_none_iff {l : List Instruction} {k : Nat} :
    l.reverse.findSome? (·.loaded? k) = none ↔ ¬ LoadsEntry l k := by
  rw [List.findSome?_eq_none_iff]
  constructor
  · rintro h ⟨half, colors, hi, hk⟩
    have hsome := Instruction.isSome_loaded?_iff.2 ⟨half, colors, rfl, hk⟩
    rw [h _ (List.mem_reverse.2 hi)] at hsome
    cases hsome
  · intro h i hi
    rw [← Option.not_isSome_iff_eq_none]
    intro hsome
    obtain ⟨half, colors, rfl, hk⟩ := Instruction.isSome_loaded?_iff.1 hsome
    exact h ⟨half, colors, List.mem_reverse.1 hi, hk⟩

/-- What instructions leave of an entry that they load does not depend on what it held, and an
entry that they do not load keeps what it held. -/
theorem getElem_loadedAll_cases (l : List Instruction) {k : Nat} (hk : k < paletteSize) :
    (LoadsEntry l k → ∀ p q, (loadedAll p l)[k] = (loadedAll q l)[k])
      ∧ (¬ LoadsEntry l k → ∀ p, (loadedAll p l)[k] = p[k]) := by
  constructor
  · intro h p q
    rw [getElem_loadedAll hk, getElem_loadedAll hk]
    obtain ⟨color, hf⟩ := Option.ne_none_iff_exists'.1
      (mt findSome?_loaded_eq_none_iff.1 (not_not_intro h))
    rw [hf, Option.getD_some, Option.getD_some]
  · intro h p
    rw [getElem_loadedAll hk, findSome?_loaded_eq_none_iff.2 h, Option.getD_none]

end Raster

namespace Clock

variable {t : OpcodeTable} {c d : Clock} {op : Op} {m : Moment} {o : Outcome}
  {s : Array Instruction} {bytes : List UInt8} {n : Nat}

/-- In a pass that began on a raster, the raster is what the executed instructions leave of it. -/
theorem Pass.raster_eq {r₀ : Raster} {told : List Diagnostic} (h : Pass r₀ s told n c) :
    c.raster = r₀.drawnAll (s.toList.take n) := by
  have hd := h.drawn
  rw [← h.count_eq] at hd
  exact (Raster.eq_drawnAll_of_execute hd).1

theorem Pass.count_le {r₀ : Raster} {told : List Diagnostic} (h : Pass r₀ s told n c) :
    n ≤ s.size := by
  rw [h.count_eq]
  rcases hp : c.pointer with _ | p
  · exact Nat.le_refl _
  · exact h.pointer_le p hp

/-- A new clock that is loaded and sent on within the stream has drawn so much of it. -/
theorem run_load_fastForward (ht : t.StandardOnly) (syncOffsetMs : Float) (bytes : List UInt8)
    (hn : n ≤ (t.decodeStream bytes).1.length) (m k : Moment) :
    ∃ outcomes e, (fresh t syncOffsetMs).run [(.load bytes, m), (.fastForward n, k)]
        = .ok (outcomes, e)
      ∧ e.raster = Raster.blank.drawnAll ((t.decodeStream bytes).1.take n) := by
  obtain ⟨e, ns, executed, he, -⟩ := ((playable_fresh ht syncOffsetMs).load bytes).advance_ok n
  have hpass := (Pass.of_rewound (c := ((fresh t syncOffsetMs).load bytes).1) rfl rfl).moves
    (moves_of_advance he)
  obtain ⟨hp, -⟩ := pointer_of_advance (c := ((fresh t syncOffsetMs).load bytes).1) rfl
    (Nat.zero_le _) he
  have hlen : 0 + n ≤ ((fresh t syncOffsetMs).load bytes).1.length := by
    rw [Nat.zero_add]
    exact hn
  have hcount : 0 + executed = n := by
    rw [hpass.count_eq, hp, if_pos hlen, Option.getD_some, Nat.zero_add]
  have hrun : (fresh t syncOffsetMs).run [(.load bytes, m), (.fastForward n, k)]
      = .ok ([⟨_, _, 0, none⟩, ⟨e, ns, executed, none⟩], e) :=
    run_cons_eq_ok.2 ⟨_, _, perform_load _ bytes m, run_cons_eq_ok.2 ⟨⟨e, ns, executed, none⟩, [],
      bind_eq_ok.2 ⟨_, he, rfl⟩, rfl, rfl⟩, rfl⟩
  refine ⟨_, e, hrun, ?_⟩
  rw [hpass.raster_eq, hcount]
  rfl

/-- What a reset or a load does to a clock with a loaded string, or to be loaded with it. -/
theorem rewound_cases (hc : c.table = t) (h : (op = .reset
    ∧ c.stream = some (t.decodeStream bytes).1.toArray) ∨ op = .load bytes)
    (ho : c.perform op m = .ok o) :
    o.clock.stream = some (t.decodeStream bytes).1.toArray ∧ o.clock.pointer = some 0
      ∧ o.clock.raster = c.raster.reset := by
  rcases h with ⟨rfl, hs⟩ | rfl
  · cases ho
    exact ⟨hs, rfl, rfl⟩
  · cases ho
    rw [← hc]
    exact ⟨rfl, rfl, rfl⟩

/-- A clock that is rewound at any time, and then left without another rewind, shows of the plane,
the offsets and the colours referred to what a new clock shows that has executed as many
instructions. Of the palette it shows the same in every entry that these load, and in each other
entry what stood there before the rewind. -/
theorem run_rewound_eq_fresh (ht : t.StandardOnly) {syncOffsetMs : Float}
    {before after : List (Op × Moment)} {first : List Outcome}
    (hc : (fresh t syncOffsetMs).run before = .ok (first, c))
    (hop : (op = .reset ∧ c.stream = some (t.decodeStream bytes).1.toArray) ∨ op = .load bytes)
    (hafter : ∀ x ∈ after, x.1.rewinds = false) (freshOffsetMs : Float) (m k₁ k₂ : Moment) :
    ∃ o rest d, c.run ((op, m) :: after) = .ok (o :: rest, d) ∧
      let n := (rest.map Outcome.executed).sum
      let drawn := (t.decodeStream bytes).1.take n
      ∃ outcomes e, (fresh t freshOffsetMs).run [(.load bytes, k₁), (.fastForward n, k₂)]
          = .ok (outcomes, e)
        ∧ drawn.length = n
        ∧ d.raster.plane = e.raster.plane
        ∧ d.raster.hOffset = e.raster.hOffset ∧ d.raster.vOffset = e.raster.vOffset
        ∧ d.raster.keyColor = e.raster.keyColor
        ∧ d.raster.backgroundColor = e.raster.backgroundColor
        ∧ d.raster.borderColor = e.raster.borderColor
        ∧ d.raster.memoryColor = e.raster.memoryColor
        ∧ ∀ (i : Nat) (hi : i < paletteSize),
          (LoadsEntry drawn i → d.raster.palette[i] = e.raster.palette[i])
            ∧ (¬ LoadsEntry drawn i → d.raster.palette[i] = c.raster.palette[i]) := by
  have htable : c.table = t := (setup_of_run hc).1
  obtain ⟨outcomes, d, hrun⟩ := run_ok_of_run ht hc ((op, m) :: after)
  obtain ⟨o, rest, ho, hrest, rfl⟩ := run_cons_eq_ok.1 hrun
  obtain ⟨hs, hp, hr⟩ := rewound_cases htable hop ho
  have hpass := (Pass.of_rewound hs hp).run hafter hrest
  rw [Nat.zero_add] at hpass
  have hle := hpass.count_le
  rw [List.size_toArray] at hle
  obtain ⟨outcomes', e, he, hraster⟩ := run_load_fastForward ht freshOffsetMs bytes hle k₁ k₂
  refine ⟨o, rest, d, hrun, outcomes', e, he, List.length_take_of_le hle, ?_⟩
  have hr : d.raster = c.raster.reset.drawnAll _ := hr ▸ hpass.raster_eq
  generalize (t.decodeStream bytes).1.take (rest.map Outcome.executed).sum = drawn at *
  have hd : d.raster = e.raster.recolored (Raster.loadedAll c.raster.palette drawn) := by
    rw [hr, hraster, ← Raster.drawnAll_recolored]
    rfl
  have hfresh : e.raster.palette = Raster.loadedAll Raster.blank.palette drawn := by
    rw [hraster, Raster.palette_drawnAll]
  simp only [hd, hfresh, Raster.recolored, true_and]
  intro i hi
  obtain ⟨hloaded, hkept⟩ := Raster.getElem_loadedAll_cases drawn hi
  exact ⟨fun h => hloaded h _ _, fun h => hkept h _⟩

/-- Both halves of the palette are loaded, and after the reset the lower one again. -/
theorem run_rewound_eq_fresh_half :
    let s : List Instruction := [.loadColors .low (Vector.replicate 8 ⟨1, 2, 3⟩),
      .loadColors .high (Vector.replicate 8 ⟨4, 5, 6⟩), .memoryPreset 7 0]
    let bytes := s.flatMap fun i => i.packet.bytes.toList
    let m : Moment := ⟨0.0, .proceed⟩
    ∃ first c, (fresh .standard 0.0).run [(.load bytes, m), (.fastForward 3, m)] = .ok (first, c)
      ∧ ∃ o rest d, c.run [(.reset, m), (.step, m)] = .ok (o :: rest, d)
        ∧ (rest.map Outcome.executed).sum = 1
        ∧ ∃ outcomes e, (fresh .standard 0.0).run [(.load bytes, m), (.fastForward 1, m)]
            = .ok (outcomes, e)
          ∧ d.raster.plane = e.raster.plane
          ∧ d.raster.palette[0] = e.raster.palette[0]
          ∧ d.raster.palette[8] = c.raster.palette[8] := by
  intro s bytes m
  have hdecoded : OpcodeTable.standard.decodeStream bytes = (s, []) := by decide +kernel
  have hc : ∃ first c, (fresh .standard 0.0).run [(.load bytes, m), (.fastForward 3, m)]
      = .ok (first, c) ∧ c.stream = some s.toArray ∧ ∃ o rest d, c.run [(.reset, m), (.step, m)]
        = .ok (o :: rest, d) ∧ (rest.map Outcome.executed).sum = 1 := by
    simp only [run, perform, load]
    rw [show (fresh .standard 0.0).table = .standard from rfl, hdecoded]
    exact ⟨_, _, rfl, rfl, _, _, _, rfl, rfl⟩
  obtain ⟨first, c, hc, hs, o, rest, d, hrun, hone⟩ := hc
  refine ⟨first, c, hc, o, rest, d, hrun, hone, ?_⟩
  have hs : c.stream = some (OpcodeTable.standard.decodeStream bytes).1.toArray := by
    rw [hdecoded]
    exact hs
  have hafter : ∀ x ∈ [(Op.step, m)], x.1.rewinds = false := by simp [Op.rewinds]
  obtain ⟨o', rest', d', hrun', outcomes, e, he, -, hplane, -, -, -, -, -, -, hpalette⟩ :=
    run_rewound_eq_fresh OpcodeTable.standardOnly_standard hc (.inl ⟨rfl, hs⟩) hafter 0.0 m m m
  rw [hrun] at hrun'
  cases hrun'
  rw [hone, hdecoded] at hpalette
  rw [hone] at he
  refine ⟨outcomes, e, he, hplane, (hpalette 0 (by decide)).1 ?_, (hpalette 8 (by decide)).2 ?_⟩
  · exact ⟨.low, _, List.mem_cons_self, by decide, by decide⟩
  · rintro ⟨half, colors, hmem, hle, hlt⟩
    rw [show s.take 1 = [Instruction.loadColors .low (Vector.replicate 8 ⟨1, 2, 3⟩)] from rfl,
      List.mem_singleton] at hmem
    cases hmem
    exact absurd hlt (by decide)

end Clock

end CdGraphics
