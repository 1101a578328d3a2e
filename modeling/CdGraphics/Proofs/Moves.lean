import CdGraphics.Playback.Run
import Mathlib.Data.List.Induction
import Mathlib.Tactic.SplitIfs

/-!
# The moves of a clock

Whatever a host asks of a clock, but for a load or a reset, comes down to a few moves: times and
the anchor are noted, playback starts or stops, the instruction under the pointer is executed, or
the stream is left. `moves_of_perform` takes every operation apart once, so that what each move
keeps is kept by every operation, and by every run (`run_induction`).
-/

namespace CdGraphics

/-- The operation goes back to packet 0 and clears the raster. -/
def Op.rewinds : Op → Bool
  | load _ | reset => true
  | _ => false

namespace Clock

/-- One change of a clock, with what it tells and how many instructions it executes. -/
inductive Move (c : Clock) : List Notice → Nat → Clock → Prop
  | note (positionMs lastTickMs : Float) (anchor : Option SyncAnchor) :
      Move c [] 0 { c with positionMs := positionMs, lastTickMs := lastTickMs, anchor := anchor }
  | ignore : Move c [.event (.playIgnored c.phase)] 0 c
  | start (now : Float) : c.running = false → c.stream.isSome = true → c.pointer.isSome = true →
      Move c [.event (.started c.positionMs)] 0 { c with running := true, lastTickMs := now }
  | stop : Move c c.stop.2 0 c.stop.1
  | execute {pointer : Nat} {instruction : Instruction} {raster : Raster}
      {reported : List Diagnostic} : c.current? = some (pointer, instruction) →
      instruction.apply c.raster = .ok (raster, reported) →
      Move c (reported.map .diagnostic) 1
        { c with raster := raster, pointer := some (pointer + 1) }
  | finish : c.current? = none → Move c c.finish.2 0 c.finish.1

/-- Any number of moves, with all that they tell and execute. -/
inductive Moves (c : Clock) : List Notice → Nat → Clock → Prop
  | refl : Moves c [] 0 c
  | tail {ns ms : List Notice} {n m : Nat} {d e : Clock} :
      Moves c ns n d → Move d ms m e → Moves c (ns ++ ms) (n + m) e

theorem Move.single {c d : Clock} {ns : List Notice} {n : Nat} (h : Move c ns n d) :
    Moves c ns n d := by
  simpa using Moves.refl.tail h

theorem Moves.trans {c d e : Clock} {ns ms : List Notice} {n m : Nat} (h : Moves c ns n d)
    (h' : Moves d ms m e) : Moves c (ns ++ ms) (n + m) e := by
  induction h' with
  | refl => rwa [List.append_nil]
  | tail _ hm ih =>
    rw [← List.append_assoc, ← Nat.add_assoc]
    exact ih.tail hm

/-- What every move keeps, any number of them keep. -/
theorem Moves.keep {P : Clock → Prop} (hP : ∀ c d ns n, Move c ns n d → P c → P d) {c d : Clock}
    {ns : List Notice} {n : Nat} (h : Moves c ns n d) (hc : P c) : P d := by
  induction h with
  | refl => exact hc
  | tail _ hm ih => exact hP _ _ _ _ hm ih

theorem Moves.stream_eq {c d : Clock} {ns : List Notice} {n : Nat} (h : Moves c ns n d) :
    d.stream = c.stream := by
  refine h.keep (P := fun e => e.stream = c.stream) (fun e f ms k hm he => ?_) rfl
  rw [← he]
  cases hm <;> rfl

theorem length_of_stream {c : Clock} {s : Array Instruction} (hs : c.stream = some s) :
    c.length = s.size := by
  rw [length, hs]
  rfl

/-- A clock with a place in its stream has an instruction there unless that is past the end. -/
theorem current?_eq_none_iff {c : Clock} {p : Nat} (hp : c.pointer = some p) :
    c.current? = none ↔ c.length ≤ p := by
  rw [length]
  rcases hs : c.stream with _ | s
  · simp [current?, hp, hs]
  · rw [current?, hp, hs, Option.elim_some, ← Array.getElem?_eq_none_iff]
    simp only [bind, pure, Option.bind_some]
    rcases s[p]? with _ | i <;> simp

theorem move_of_advanceOne {c d : Clock} {ns : List Notice} {b : Bool}
    (h : c.advanceOne = .ok (d, ns, b)) : Move c ns b.toNat d := by
  unfold advanceOne at h
  split at h
  · rename_i pointer instruction hc
    obtain ⟨⟨raster, reported⟩, ha, h⟩ := bind_eq_ok.1 h
    cases h
    exact .execute hc ha
  · rename_i hc
    cases h
    exact .finish hc

theorem moves_of_advance : ∀ {count : Nat} {c d : Clock} {ns : List Notice} {n : Nat},
    advance count c = .ok (d, ns, n) → Moves c ns n d
  | 0, c, d, ns, n, h => by
    cases h
    exact .refl
  | count + 1, c, d, ns, n, h => by
    unfold advance at h
    split at h
    · cases h
      exact .refl
    · obtain ⟨⟨c', ms, b⟩, h1, h⟩ := bind_eq_ok.1 h
      obtain ⟨⟨c'', ks, k⟩, h2, h⟩ := bind_eq_ok.1 h
      cases h
      rw [Nat.add_comm]
      exact (move_of_advanceOne h1).single.trans (moves_of_advance h2)

theorem moves_heed {c : Clock} {o : Outcome} (h : Moves c o.notices o.executed o.clock)
    (a : Answer) : Moves c (o.heed a).notices (o.heed a).executed (o.heed a).clock := by
  unfold Outcome.heed
  split
  · exact h.tail .stop
  · exact h

theorem moves_of_step {c : Clock} {o : Outcome} (h : c.step = .ok o) :
    Moves c o.notices o.executed o.clock := by
  obtain ⟨⟨d, ns, b⟩, h1, h⟩ := bind_eq_ok.1 h
  cases h
  exact (move_of_advanceOne h1).single

theorem moves_of_fastForward {c : Clock} {count : Nat} {o : Outcome}
    (h : c.fastForward count = .ok o) : Moves c o.notices o.executed o.clock := by
  obtain ⟨⟨d, ns, n⟩, h1, h⟩ := bind_eq_ok.1 h
  cases h
  exact moves_of_advance h1

theorem moves_play (c : Clock) (now : Float) : Moves c (c.play now).2 0 (c.play now).1 := by
  unfold play
  split_ifs with hr hl
  · exact .refl
  · rw [Bool.and_eq_true] at hl
    exact (Move.start now (by simpa using hr) hl.1 hl.2).single
  · exact Move.ignore.single

theorem moves_of_render {c : Clock} {o : Outcome} (h : c.render = .ok o) :
    Moves c o.notices o.executed o.clock := by
  obtain ⟨f, -, h⟩ := bind_eq_ok.1 h
  cases h
  exact .refl

theorem moves_of_tick {c : Clock} {now : Float} {o : Outcome} (h : c.tick now = .ok o) :
    Moves c o.notices o.executed o.clock := by
  unfold tick at h
  split at h
  · have hn : Moves c [] 0 (c.retime now) := (Move.note (c.positionAt now) now c.anchor).single
    simp only at h
    split_ifs at h
    · cases h
      exact hn
    · obtain ⟨⟨d, ns, n⟩, h1, h⟩ := bind_eq_ok.1 h
      obtain ⟨f, -, h⟩ := bind_eq_ok.1 h
      cases h
      have := hn.trans (moves_of_advance h1)
      rwa [List.nil_append, Nat.zero_add] at this
  · cases h
    exact .refl

/-- An operation that does not rewind is a row of moves. -/
theorem moves_of_perform {c : Clock} {op : Op} {m : Moment} {o : Outcome}
    (hop : op.rewinds = false) (h : c.perform op m = .ok o) :
    Moves c o.notices o.executed o.clock := by
  cases op with
  | load bytes => cases hop
  | reset => cases hop
  | step => exact moves_of_step h
  | fastForward count => exact moves_of_fastForward h
  | play =>
    cases h
    exact moves_play c m.wallMs
  | stop =>
    cases h
    exact Move.stop.single
  | sync ms =>
    cases h
    exact (Move.note c.positionMs c.lastTickMs _).single
  | render =>
    rw [perform] at h
    obtain ⟨o', h', rfl⟩ := map_eq_ok.1 h
    exact moves_heed (moves_of_render h') m.answer
  | tick now =>
    rw [perform] at h
    obtain ⟨o', h', rfl⟩ := map_eq_ok.1 h
    exact moves_heed (moves_of_tick h') m.answer

theorem load_fst (c : Clock) (bytes : List UInt8) : (c.load bytes).1
    = reset { c with stream := some (c.table.decodeStream bytes).1.toArray } := rfl

theorem load_snd (c : Clock) (bytes : List UInt8) : (c.load bytes).2
    = (c.table.decodeStream bytes).2.map .diagnostic
      ++ [.event (.loaded (c.table.decodeStream bytes).1.length)] := rfl

theorem perform_load (c : Clock) (bytes : List UInt8) (m : Moment) :
    c.perform (.load bytes) m = .ok ⟨(c.load bytes).1, (c.load bytes).2, 0, none⟩ := rfl

/-- All that an operation can do. -/
theorem perform_cases {c : Clock} {op : Op} {m : Moment} {o : Outcome}
    (h : c.perform op m = .ok o) :
    (op.rewinds = false ∧ Moves c o.notices o.executed o.clock)
      ∨ (op = .reset ∧ o = ⟨c.reset, [], 0, none⟩)
      ∨ ∃ bytes, op = .load bytes ∧ o = ⟨(c.load bytes).1, (c.load bytes).2, 0, none⟩ := by
  rcases hop : op.rewinds with _ | _
  · exact .inl ⟨rfl, moves_of_perform hop h⟩
  · cases op with
    | load bytes =>
      rw [perform_load] at h
      exact .inr (.inr ⟨bytes, rfl, (Except.ok.inj h).symm⟩)
    | reset => exact .inr (.inl ⟨rfl, (Except.ok.inj h).symm⟩)
    | _ => cases hop

/-! ## Runs -/

theorem run_concat_eq_ok {c d : Clock} {ops : List (Op × Moment)} {x : Op × Moment}
    {outcomes : List Outcome} : c.run (ops ++ [x]) = .ok (outcomes, d) ↔ ∃ first e o,
      c.run ops = .ok (first, e) ∧ e.perform x.1 x.2 = .ok o ∧ outcomes = first ++ [o]
        ∧ d = o.clock := by
  simp only [run_append, run, bind_eq_ok, pure, Except.pure, Except.ok.injEq, Prod.mk.injEq,
    Prod.exists]
  constructor
  · rintro ⟨first, e, h1, _, _, ⟨o, h2, _, _, ⟨rfl, rfl⟩, rfl, rfl⟩, rfl, rfl⟩
    exact ⟨first, e, o, h1, h2, rfl, rfl⟩
  · rintro ⟨first, e, o, h1, h2, rfl, rfl⟩
    exact ⟨first, e, h1, _, _, ⟨o, h2, _, _, ⟨rfl, rfl⟩, rfl, rfl⟩, rfl, rfl⟩

theorem run_cons_eq_ok {c d : Clock} {op : Op} {m : Moment} {rest : List (Op × Moment)}
    {outcomes : List Outcome} : c.run ((op, m) :: rest) = .ok (outcomes, d) ↔ ∃ o later,
      c.perform op m = .ok o ∧ o.clock.run rest = .ok (later, d) ∧ outcomes = o :: later := by
  simp only [run, bind_eq_ok, pure, Except.pure, Except.ok.injEq, Prod.mk.injEq, Prod.exists]
  constructor
  · rintro ⟨o, h1, later, e, h2, rfl, rfl⟩
    exact ⟨o, later, h1, h2, rfl⟩
  · rintro ⟨o, later, h1, h2, rfl⟩
    exact ⟨o, h1, later, d, h2, rfl, rfl⟩

/-- What holds of a clock and nothing done to it, and is kept by one operation more, holds of what
was done and of where it led after every run. -/
theorem run_induction {c : Clock}
    {P : List (Op × Moment) → List Outcome → Clock → Prop} (start : P [] [] c)
    (step : ∀ ops outcomes d op m o, c.run ops = .ok (outcomes, d) → P ops outcomes d →
      d.perform op m = .ok o → P (ops ++ [(op, m)]) (outcomes ++ [o]) o.clock)
    {ops : List (Op × Moment)} {outcomes : List Outcome} {d : Clock}
    (h : c.run ops = .ok (outcomes, d)) : P ops outcomes d := by
  induction ops using List.reverseRecOn generalizing outcomes d with
  | nil =>
    cases h
    exact start
  | append_singleton ops x ih =>
    obtain ⟨first, e, o, h1, h2, rfl, rfl⟩ := run_concat_eq_ok.1 h
    exact step _ _ _ _ _ _ h1 (ih h1) h2

/-- What operations of a kind keep, a run of such operations keeps. -/
theorem run_keep {Q : Op → Prop} {P : Clock → Prop}
    (hP : ∀ c op m o, Q op → c.perform op m = .ok o → P c → P o.clock)
    {ops : List (Op × Moment)} {outcomes : List Outcome} {c d : Clock} (hops : ∀ x ∈ ops, Q x.1)
    (h : c.run ops = .ok (outcomes, d)) (hc : P c) : P d := by
  refine run_induction (P := fun ops _ d => (∀ x ∈ ops, Q x.1) → P d) (fun _ => hc) ?_ h hops
  intro ops outcomes e op m o _ ih ho hops
  have he : P e := ih fun x hx => hops x (List.mem_append_left _ hx)
  exact hP e op m o (hops (op, m) (by simp)) ho he

/-- What a clock was set up with stays. -/
theorem setup_of_run {ops : List (Op × Moment)} {outcomes : List Outcome} {c d : Clock}
    (h : c.run ops = .ok (outcomes, d)) : d.table = c.table ∧ d.rate = c.rate := by
  refine run_keep (Q := fun _ => True) (P := fun e => e.table = c.table ∧ e.rate = c.rate)
    (fun e op m o _ ho he => ?_) (fun _ _ => trivial) h ⟨rfl, rfl⟩
  rcases perform_cases ho with ⟨-, hm⟩ | ⟨-, rfl⟩ | ⟨bytes, -, rfl⟩
  · refine hm.keep (P := fun f => f.table = c.table ∧ f.rate = c.rate) (fun f g ns n hm hf => ?_) he
    cases hm <;> exact hf
  · exact he
  · exact he

/-- A new clock that is loaded and started. -/
theorem run_load_play (t : OpcodeTable) (syncOffsetMs : Float) (bytes : List UInt8)
    (m k : Moment) : ∃ outcomes, (fresh t syncOffsetMs).run [(.load bytes, m), (.play, k)]
      = .ok (outcomes, { ((fresh t syncOffsetMs).load bytes).1 with
          running := true, lastTickMs := k.wallMs }) :=
  ⟨_, rfl⟩

theorem length_of_run {c d : Clock} {ops : List (Op × Moment)} {outcomes : List Outcome}
    (h : c.run ops = .ok (outcomes, d)) : outcomes.length = ops.length := by
  refine run_induction (P := fun ops outcomes _ => outcomes.length = ops.length) rfl ?_ h
  intro ops outcomes d op m o _ ih _
  rw [List.length_append, List.length_append, ih, List.length_singleton, List.length_singleton]

end Clock

end CdGraphics
