import CdGraphics.Proofs.Schedule
import Mathlib.Data.List.Forall2

/-!
# The pictures that ticks hand over

A tick of a running clock hands over a picture where its target is past the pointer, and the
picture is that of the instructions executed so far (`Pass.tick_delivers`). There are more of these
from picture to picture and never more than the stream has, except that the tick that leaves the
stream may have executed nothing: only the last two pictures can show the same
(`delivered_of_ticks`).
-/

namespace CdGraphics

/-- The picture of a blank raster after the first so many of some instructions. -/
def Shows (l : List Instruction) (place : Nat) (picture : Frame) : Prop :=
  ∃ raster told, Raster.blank.execute (l.take place) = .ok (raster, told)
    ∧ raster.compose = .ok picture

theorem Shows.unique {l : List Instruction} {place : Nat} {picture picture' : Frame}
    (h : Shows l place picture) (h' : Shows l place picture') : picture = picture' := by
  obtain ⟨raster, told, hr, hp⟩ := h
  obtain ⟨raster', told', hr', hp'⟩ := h'
  rw [hr] at hr'
  cases hr'
  rw [hp] at hp'
  exact Except.ok.inj hp'

namespace Clock

def pictures (outcomes : List Outcome) : List Frame := outcomes.filterMap Outcome.frame

/-- Where a tick that handed over a picture has come in a stream of `length` packets; off the stream
that is its end. -/
def place? (length : Nat) (o : Outcome) : Option Nat :=
  o.frame.map fun _ => o.clock.pointer.getD length

/-- The places of the pictures that were handed over. -/
def places (length : Nat) (outcomes : List Outcome) : List Nat :=
  outcomes.filterMap (place? length)

/-- One more tick shows the end of a stream of `length` packets again: it has executed nothing and
left the stream. -/
structure Repeats (length : Nat) (outcomes : List Outcome) (o : Outcome) : Prop where
  shown : (places length outcomes).getLast? = some length
  place : place? length o = some length
  executed : o.executed = 0
  finished : o.clock.phase = .finished

/-- The places lie in a stream of `length` packets and rise from picture to picture, but for that
of the last tick if it shows the end again. -/
structure Rise (length : Nat) (outcomes : List Outcome) : Prop where
  le_length : ∀ q ∈ places length outcomes, q ≤ length
  rise : (places length outcomes).Pairwise (· < ·)
    ∨ ∃ earlier o, outcomes = earlier ++ [o] ∧ (places length earlier).Pairwise (· < ·)
      ∧ Repeats length earlier o

variable {c d : Clock} {o : Outcome} {s : Array Instruction} {told : List Diagnostic} {n p : Nat}
  {now : Float} {ops : List (Op × Moment)} {times : List Float} {outcomes : List Outcome}
  {picture : Frame}

theorem pictures_of_no_frame (outcomes : List Outcome) (hf : o.frame = none) :
    pictures (outcomes ++ [o]) = pictures outcomes := by
  simp [pictures, hf]

theorem pictures_of_frame (outcomes : List Outcome) (hf : o.frame = some picture) :
    pictures (outcomes ++ [o]) = pictures outcomes ++ [picture] := by
  simp [pictures, hf]

theorem places_of_no_frame (outcomes : List Outcome) (hf : o.frame = none) :
    places n (outcomes ++ [o]) = places n outcomes := by
  simp [places, place?, hf]

theorem places_of_frame (outcomes : List Outcome) (hf : o.frame = some picture) :
    places n (outcomes ++ [o]) = places n outcomes ++ [o.clock.pointer.getD n] := by
  simp [places, place?, hf]

theorem running_of_run (hr : c.running = true) (h : c.run ops = .ok (outcomes, d))
    (ho : ∀ o ∈ outcomes, o.clock.running = true) : d.running = true := by
  induction ops using List.reverseRecOn with
  | nil =>
    cases h
    exact hr
  | append_singleton ops x _ =>
    obtain ⟨first, e, o, -, -, rfl, rfl⟩ := run_concat_eq_ok.1 h
    exact ho o (by simp)

theorem forall_running_of_run (h : c.run ops = .ok (outcomes, d)) (hr : d.running = true)
    (ho : ∀ o ∈ outcomes.dropLast, o.clock.running = true) :
    ∀ o ∈ outcomes, o.clock.running = true := by
  induction ops using List.reverseRecOn with
  | nil =>
    cases h
    simp
  | append_singleton ops x _ =>
    obtain ⟨first, e, o, -, -, rfl, rfl⟩ := run_concat_eq_ok.1 h
    rw [List.dropLast_concat] at ho
    simpa [or_imp, forall_and] using ⟨ho, hr⟩

/-- What a tick of a running clock in a pass hands over. -/
theorem Pass.tick_delivers (h : Pass .blank s told n c) (hc : Coherent c)
    (hr : c.running = true) (hp : c.pointer = some p) (ho : c.tick now = .ok o) :
    (o.frame = none ∧ o.clock.pointer = some p)
      ∨ ∃ picture, o.frame = some picture ∧ Shows s.toList (o.clock.pointer.getD s.size) picture
        ∧ (p < o.clock.pointer.getD s.size
          ∨ p = s.size ∧ o.executed = 0 ∧ o.clock.pointer = none) := by
  rcases tick_cases hr hp ho with ⟨-, rfl⟩ | ⟨ht, ha, picture, hf, hcompose⟩
  · exact .inl ⟨rfl, hp⟩
  · right
    have hpass := h.moves (moves_of_tick ho)
    refine ⟨picture, hf, ⟨_, _, hpass.drawn, hcompose⟩, ?_⟩
    have hcount := hpass.count_eq
    rw [h.count_eq, hp, Option.getD_some] at hcount
    have hlen : c.length = s.size := by
      unfold length
      rw [h.stream]
      rfl
    have hpointer := (pointer_of_tick hc hr ho).1
    rw [hp, hlen, placed, Option.bind_some, if_neg (Nat.not_le_of_lt ht)] at hpointer
    have hle := h.pointer_le p hp
    split_ifs at hpointer with hend
    · rw [hpointer]
      exact .inl ht
    · rw [hpointer, Option.getD_none] at hcount ⊢
      rcases Nat.lt_or_eq_of_le hle with hlt | heq
      · exact .inl hlt
      · exact .inr ⟨heq, by omega, rfl⟩

theorem Pass.getD_pointer_le {count : Nat} (h : Pass .blank s told count c) :
    c.pointer.getD s.size ≤ s.size := by
  rcases hp : c.pointer with _ | p
  · exact le_rfl
  · exact h.pointer_le p hp

/-- What so many ticks have handed over, each of a running clock. -/
structure Delivered (s : Array Instruction) (outcomes : List Outcome) (c : Clock) : Prop where
  shows : List.Forall₂ (Shows s.toList) (places s.size outcomes) (pictures outcomes)
  rise : Rise s.size outcomes
  /-- On the stream all were of places up to the pointer. -/
  le_pointer : ∀ p, c.pointer = some p →
    (places s.size outcomes).Pairwise (· < ·) ∧ ∀ q ∈ places s.size outcomes, q ≤ p

theorem getLast?_of_mem {l : List Nat} {q : Nat} (h : l.Pairwise (· < ·)) (hle : ∀ x ∈ l, x ≤ q)
    (hq : q ∈ l) : l.getLast? = some q := by
  rcases List.eq_nil_or_concat l with rfl | ⟨earlier, last, rfl⟩
  · cases hq
  rw [List.concat_eq_append] at *
  rw [List.getLast?_concat]
  rcases List.mem_append.1 hq with hmem | hmem
  · have hlt := (List.pairwise_append.1 h).2.2 q hmem last (by simp)
    have := hle last (by simp)
    omega
  · rw [List.mem_singleton.1 hmem]

theorem finished_of_tick (hc : Coherent c) (hr : c.running = true) (ho : c.tick now = .ok o)
    (hnone : o.clock.pointer = none) : o.clock.phase = .finished := by
  refine phase_eq_finished_iff.2 ⟨?_, ?_, hnone⟩
  · rw [(moves_of_tick ho).stream_eq]
    exact hc.stream_of_running hr
  · rw [(pointer_of_tick hc hr ho).2, hnone]
    rfl

theorem places_of_greater (hrise : (places n outcomes).Pairwise (· < ·))
    (hlt : ∀ q ∈ places n outcomes, q < o.clock.pointer.getD n) (hf : o.frame = some picture) :
    (places n (outcomes ++ [o])).Pairwise (· < ·)
      ∧ ∀ q ∈ places n (outcomes ++ [o]), q ≤ o.clock.pointer.getD n := by
  rw [places_of_frame outcomes hf]
  refine ⟨List.pairwise_append.2 ⟨hrise, List.pairwise_singleton _ _, fun x hx y hy => ?_⟩, ?_⟩
  · rw [List.mem_singleton.1 hy]
    exact hlt x hx
  · intro q hq
    rcases List.mem_append.1 hq with hq | hq
    · exact Nat.le_of_lt (hlt q hq)
    · exact Nat.le_of_eq (List.mem_singleton.1 hq)

/-- The tick that leaves the stream from its end shows it for the first time or again. -/
theorem rise_of_leaving (hrise : (places n outcomes).Pairwise (· < ·))
    (hle : ∀ q ∈ places n outcomes, q ≤ n) (hf : o.frame = some picture)
    (hexecuted : o.executed = 0) (hnone : o.clock.pointer = none)
    (hfinished : o.clock.phase = .finished) : Rise n (outcomes ++ [o]) := by
  have hend : o.clock.pointer.getD n = n := by rw [hnone, Option.getD_none]
  by_cases hmem : n ∈ places n outcomes
  · refine ⟨fun q hq => ?_, .inr ⟨outcomes, o, rfl, hrise, getLast?_of_mem hrise hle hmem, ?_,
      hexecuted, hfinished⟩⟩
    · rw [places_of_frame outcomes hf, hend] at hq
      rcases List.mem_append.1 hq with hq | hq
      · exact hle q hq
      · exact Nat.le_of_eq (List.mem_singleton.1 hq)
    · rw [place?, hf, Option.map_some, hend]
  · have hlt : ∀ q ∈ places n outcomes, q < o.clock.pointer.getD n := by
      intro q hq
      rw [hend]
      exact Nat.lt_of_le_of_ne (hle q hq) (ne_of_mem_of_not_mem hq hmem)
    obtain ⟨hpairwise, hbound⟩ := places_of_greater hrise hlt hf
    rw [hend] at hbound
    exact ⟨hbound, .inl hpairwise⟩

theorem Delivered.tick (h : Delivered s outcomes c) (hpass : Pass .blank s told n c)
    (hc : Coherent c) (hr : c.running = true) (ho : c.tick now = .ok o) :
    Delivered s (outcomes ++ [o]) o.clock := by
  obtain ⟨p, hp⟩ := Option.isSome_iff_exists.1 (hc.pointer_of_running hr)
  obtain ⟨hrise, hle⟩ := h.le_pointer p hp
  rcases hpass.tick_delivers hc hr hp ho with ⟨hf, hp'⟩ | ⟨picture, hf, hshows, hplace⟩
  · have hplaces : places s.size (outcomes ++ [o]) = places s.size outcomes :=
      places_of_no_frame outcomes hf
    refine ⟨?_, ⟨?_, .inl ?_⟩, fun q hq => ?_⟩
    · rw [hplaces, pictures_of_no_frame outcomes hf]
      exact h.shows
    · rw [hplaces]
      exact h.rise.le_length
    · rwa [hplaces]
    · rw [hp'] at hq
      cases hq
      rw [hplaces]
      exact ⟨hrise, hle⟩
  · have hshown : List.Forall₂ (Shows s.toList) (places s.size (outcomes ++ [o]))
        (pictures (outcomes ++ [o])) := by
      rw [places_of_frame outcomes hf, pictures_of_frame outcomes hf]
      exact List.rel_append h.shows (.cons hshows .nil)
    rcases hplace with hlt | ⟨rfl, hexecuted, hnone⟩
    · have hend := (hpass.moves (moves_of_tick ho)).getD_pointer_le
      obtain ⟨hpairwise, hbound⟩ := places_of_greater hrise
        (fun q hq => Nat.lt_of_le_of_lt (hle q hq) hlt) hf
      refine ⟨hshown, ⟨fun q hq => (hbound q hq).trans hend, .inl hpairwise⟩, fun q hq => ?_⟩
      rw [hq] at hbound
      exact ⟨hpairwise, hbound⟩
    · have hfinished := finished_of_tick hc hr ho hnone
      refine ⟨hshown, rise_of_leaving hrise hle hf hexecuted hnone hfinished, fun q hq => ?_⟩
      rw [hnone] at hq
      cases hq

/-- Ticks from the start of a pass, each of a running clock, hand over pictures of places that
rise. -/
theorem delivered_of_ticks (hpass : Pass .blank s [] 0 c) (hc : Coherent c) (hr : c.running = true)
    (h : c.run (ticks times) = .ok (outcomes, d))
    (going : ∀ o ∈ outcomes.dropLast, o.clock.running = true) : Delivered s outcomes d := by
  induction times using List.reverseRecOn generalizing outcomes d with
  | nil =>
    cases h
    exact ⟨.nil, ⟨by simp [places], .inl .nil⟩, fun p _ => ⟨.nil, by simp [places]⟩⟩
  | append_singleton times now ih =>
    rw [ticks, List.map_append, List.map_singleton] at h
    obtain ⟨first, e, o, hfirst, ho, rfl, rfl⟩ := run_concat_eq_ok.1 h
    rw [perform_tick_proceed] at ho
    rw [List.dropLast_concat] at going
    have hdelivered := ih hfirst fun x hx => going x ((List.dropLast_sublist _).subset hx)
    exact hdelivered.tick (hpass.run (ticks_rewinds times) hfirst) (hc.run hfirst)
      (running_of_run hr hfirst going) ho

end Clock

end CdGraphics
