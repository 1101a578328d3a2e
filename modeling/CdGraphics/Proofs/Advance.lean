import CdGraphics.Proofs.Lifecycle

/-!
# Advancing

A clock with a place in its stream advances packet by packet and, one step past the last, leaves
the stream. `pointer_of_advance` says where a number of steps leads and whether the clock still
runs there; `tick_of_running` cuts a tick into noting its time and such an advance.
-/

namespace CdGraphics

namespace Clock

variable {c d : Clock} {ns : List Notice} {n p : Nat} {i : Instruction}

theorem finish_fst (c : Clock) :
    c.finish.1 = { c with pointer := none, running := false, anchor := none } := rfl

theorem stop_fst (c : Clock) : c.stop.1 = { c with running := false, anchor := none } := rfl

theorem pointer_of_current? (h : c.current? = some (p, i)) : c.pointer = some p := by
  simp only [current?, bind, pure, Option.bind_eq_some_iff, Option.some.injEq,
    Prod.mk.injEq] at h
  obtain ⟨q, hq, s, -, j, -, rfl, -⟩ := h
  exact hq

/-- An advance executes the instruction under the pointer and moves on or, with none there, leaves
the stream. -/
theorem advanceOne_cases {b : Bool} (h : c.advanceOne = .ok (d, ns, b)) :
    (∃ p i raster, c.current? = some (p, i) ∧ b = true
        ∧ d = { c with raster := raster, pointer := some (p + 1) })
      ∨ c.current? = none ∧ b = false ∧ d = c.finish.1 := by
  unfold advanceOne at h
  split at h
  · rename_i p i hc
    obtain ⟨⟨raster, reported⟩, -, h⟩ := bind_eq_ok.1 h
    cases h
    exact .inl ⟨p, i, raster, hc, rfl, rfl⟩
  · rename_i hc
    cases h
    exact .inr ⟨hc, rfl, rfl⟩

/-- From a place in the stream an advance moves on by one, or leaves it at the end. -/
theorem advanceOne_of_pointer {b : Bool} (hp : c.pointer = some p)
    (h : c.advanceOne = .ok (d, ns, b)) :
    (p < c.length ∧ ∃ raster, d = { c with raster := raster, pointer := some (p + 1) })
      ∨ (c.length ≤ p ∧ d = c.finish.1) := by
  rcases advanceOne_cases h with ⟨q, i, raster, hc, -, rfl⟩ | ⟨hc, -, rfl⟩
  · have hq : q = p := by
      rw [pointer_of_current? hc] at hp
      exact Option.some.inj hp
    subst hq
    exact .inl ⟨lt_length_of_current? hc, raster, rfl⟩
  · exact .inr ⟨(current?_eq_none_iff hp).1 hc, rfl⟩

theorem advance_of_no_pointer (h : c.pointer = none) : ∀ count : Nat,
    advance count c = .ok (c, [], 0)
  | 0 => rfl
  | count + 1 => by
    unfold advance
    rw [h]

theorem advance_of_error {fault : Fault} (hp : c.pointer = some p)
    (h : c.advanceOne = .error fault) (count : Nat) : advance (count + 1) c = .error fault := by
  rw [advance, hp, h]
  rfl

theorem advance_of_ok {b : Bool} (hp : c.pointer = some p) (h : c.advanceOne = .ok (d, ns, b))
    (count : Nat) : advance (count + 1) c = do
      let (e, later, total) ← advance count d
      return (e, ns ++ later, total + b.toNat) := by
  rw [advance, hp, h]
  rfl

/-- So many steps from a place lead as many packets on, or off the stream if it ends before. -/
theorem pointer_of_advance : ∀ {count : Nat} {c d : Clock} {ns : List Notice} {n p : Nat},
    c.pointer = some p → p ≤ c.length → advance count c = .ok (d, ns, n) →
      d.pointer = (if p + count ≤ c.length then some (p + count) else none)
        ∧ d.running = (c.running && decide (p + count ≤ c.length))
  | 0, c, d, ns, n, p, hp, hle, h => by
    cases h
    simp [hp, hle]
  | count + 1, c, d, ns, n, p, hp, hle, h => by
    unfold advance at h
    rw [hp] at h
    obtain ⟨⟨c', ms, b⟩, h1, h⟩ := bind_eq_ok.1 h
    obtain ⟨⟨c'', ks, k⟩, h2, h⟩ := bind_eq_ok.1 h
    cases h
    rcases advanceOne_of_pointer hp h1 with ⟨hlt, raster, rfl⟩ | ⟨hend, rfl⟩
    · have hd := pointer_of_advance (c := { c with raster := raster, pointer := some (p + 1) })
        rfl hlt h2
      rw [Nat.add_assoc, Nat.add_comm 1] at hd
      exact hd
    · rw [finish_fst, advance_of_no_pointer rfl] at h2
      cases h2
      have hgt : ¬ p + (count + 1) ≤ c.length := by omega
      simp [hgt]

theorem tick_of_running (hr : c.running = true) (hp : c.pointer = some p) (now : Float) :
    c.tick now = if c.targetAt now ≤ p then .ok ⟨c.retime now, [], 0, none⟩ else do
      let (d, notices, executed) ← advance (c.targetAt now - p) (c.retime now)
      return ⟨d, notices, executed, some (← d.raster.compose)⟩ := by
  unfold tick
  rw [hr, hp]

theorem tick_of_not_running (hr : c.running = false) (now : Float) :
    c.tick now = .ok ⟨c, [], 0, none⟩ := by
  unfold tick
  rw [hr]

/-- A tick of a running clock notes its time and stays, or advances to its target. -/
theorem tick_cases {now : Float} {o : Outcome} (hr : c.running = true) (hp : c.pointer = some p)
    (h : c.tick now = .ok o) :
    (c.targetAt now ≤ p ∧ o = ⟨c.retime now, [], 0, none⟩)
      ∨ (p < c.targetAt now
        ∧ advance (c.targetAt now - p) (c.retime now) = .ok (o.clock, o.notices, o.executed)
        ∧ ∃ f, o.frame = some f ∧ o.clock.raster.compose = .ok f) := by
  rw [tick_of_running hr hp] at h
  split_ifs at h with hle
  · exact .inl ⟨hle, (Except.ok.inj h).symm⟩
  · obtain ⟨⟨d, ns, n⟩, h1, h⟩ := bind_eq_ok.1 h
    obtain ⟨f, hf, h⟩ := bind_eq_ok.1 h
    cases h
    exact .inr ⟨Nat.lt_of_not_le hle, h1, f, rfl, hf⟩

end Clock

end CdGraphics
