import CdGraphics.Proofs.Moves

/-!
# The lifecycle of a clock

A phase is read off three fields that the operations write apart. `Coherent` is what ties them
together: a running clock has a stream and a pointer, and a pointer never lies past the end. The
log agrees: starts and stops of playback alternate, and the last of them says whether the clock is
running (`Paced`). `run_lifecycle` puts this together for every run of a new clock.
-/

namespace CdGraphics

/-- The operation loads a stream. -/
def Op.loads : Op → Bool
  | load _ => true
  | _ => false

/-- Whether a notice says that playback started, or that it stopped. -/
def Notice.toggle? : Notice → Option Bool
  | event (.started _) => some true
  | event (.stopped _) => some false
  | _ => none

/-- The message of a start or a stop in the log. -/
def toggleMessage (started : Bool) : String :=
  if started then "playback started" else "playback stopped"

theorem head?_toList_append {a b : String} {c : Char} (h : a.toList.head? = some c) :
    (a ++ b).toList.head? = some c := by
  rw [String.toList_append, List.head?_append, h, Option.some_or]

theorem Diagnostic.exists_head?_text : ∀ d : Diagnostic,
    ∃ c, d.text.toList.head? = some c ∧ c ≠ 'p'
  | .unknownOpcode (some _) _ =>
    ⟨'u', head?_toList_append (head?_toList_append (head?_toList_append rfl)), by decide⟩
  | .unknownOpcode none _ => ⟨'u', head?_toList_append rfl, by decide⟩
  | .outOfBounds _ _ => ⟨'t', head?_toList_append (head?_toList_append
      (head?_toList_append (head?_toList_append rfl))), by decide⟩
  | .truncated _ => ⟨'d', head?_toList_append (head?_toList_append rfl), by decide⟩

theorem Diagnostic.text_ne_toggleMessage (d : Diagnostic) (b : Bool) :
    d.text ≠ toggleMessage b := by
  intro h
  obtain ⟨c, hc, hne⟩ := d.exists_head?_text
  have hp : (toggleMessage b).toList.head? = some 'p' := by cases b <;> rfl
  rw [h, hp] at hc
  exact hne (Option.some.inj hc).symm

/-- It is the message of no other notice. -/
theorem toggle?_eq_some_iff {n : Notice} {b : Bool} :
    n.toggle? = some b ↔ n.logLine.message = toggleMessage b := by
  cases n with
  | diagnostic d => simp [Notice.toggle?, Notice.logLine, Diagnostic.logLine,
      d.text_ne_toggleMessage b]
  | event e => cases e <;> cases b <;>
      simp [Notice.toggle?, Notice.logLine, Event.logLine, toggleMessage]

/-- The starts and stops of playback among what was told, in order. -/
def toggles (outcomes : List Outcome) : List Bool :=
  outcomes.flatMap fun o => o.notices.filterMap Notice.toggle?

/-- The messages of starts and stops in the log, in order. -/
def toggleMessages (outcomes : List Outcome) : List String :=
  ((outcomes.flatMap Outcome.notices).map fun n => n.logLine.message).filter fun message =>
    message = toggleMessage true ∨ message = toggleMessage false

theorem filter_messages : ∀ ns : List Notice,
    (ns.map fun n => n.logLine.message).filter (fun message =>
      message = toggleMessage true ∨ message = toggleMessage false)
    = (ns.filterMap Notice.toggle?).map toggleMessage
  | [] => rfl
  | n :: ns => by
    rw [List.map_cons, List.filter_cons, List.filterMap_cons, filter_messages ns]
    rcases htoggle : n.toggle? with _ | b
    · have hno : ∀ b, n.logLine.message ≠ toggleMessage b := fun b hb => by
        rw [toggle?_eq_some_iff.2 hb] at htoggle
        cases htoggle
      simp [hno]
    · have hmessage := toggle?_eq_some_iff.1 htoggle
      cases b <;> simp [hmessage]

theorem toggleMessages_eq (outcomes : List Outcome) :
    toggleMessages outcomes = (toggles outcomes).map toggleMessage := by
  rw [toggleMessages, filter_messages, toggles, List.filterMap_flatMap]

theorem toggles_concat (outcomes : List Outcome) (o : Outcome) :
    toggles (outcomes ++ [o]) = toggles outcomes ++ o.notices.filterMap Notice.toggle? := by
  rw [toggles, List.flatMap_append, List.flatMap_singleton, toggles]

theorem filterMap_toggle_diagnostics (ds : List Diagnostic) :
    (ds.map Notice.diagnostic).filterMap Notice.toggle? = [] := by
  induction ds with
  | nil => rfl
  | cons d ds ih => simp [Notice.toggle?]

/-- The first `n` of starts and stops in turn, a start first. -/
def alternating (n : Nat) : List Bool := (List.range n).map fun i => decide (i % 2 = 0)

theorem alternating_succ (n : Nat) :
    alternating (n + 1) = alternating n ++ [decide (n % 2 = 0)] := by
  simp [alternating, List.range_succ]

theorem getLast?_alternating (n : Nat) :
    (alternating n).getLast? = some true ↔ n % 2 = 1 := by
  cases n with
  | zero => simp [alternating]
  | succ n =>
    rw [alternating_succ, List.getLast?_concat]
    simp only [Option.some.injEq, decide_eq_true_eq]
    omega

namespace Clock

variable {c d : Clock} {ns : List Notice} {n : Nat} {op : Op} {m : Moment} {o : Outcome}
  {ops : List (Op × Moment)} {outcomes : List Outcome}

theorem phase_eq_idle_iff : c.phase = .idle ↔ c.stream = none := by
  unfold phase
  split <;> simp_all

theorem phase_eq_finished_iff :
    c.phase = .finished ↔ c.stream.isSome = true ∧ c.running = false ∧ c.pointer = none := by
  unfold phase
  split <;> simp_all

/-- A running clock has a stream and a place in it, and no place lies past the end. -/
structure Coherent (c : Clock) : Prop where
  stream_of_running : c.running = true → c.stream.isSome = true
  pointer_of_running : c.running = true → c.pointer.isSome = true
  pointer_le : ∀ p, c.pointer = some p → p ≤ c.length

theorem coherent_fresh (t : OpcodeTable) (syncOffsetMs : Float) :
    Coherent (fresh t syncOffsetMs) :=
  ⟨nofun, nofun, nofun⟩

theorem lt_length_of_current? {p : Nat} {i : Instruction} (h : c.current? = some (p, i)) :
    p < c.length := by
  simp only [current?, bind, pure, Option.bind_eq_some_iff, Option.some.injEq,
    Prod.mk.injEq] at h
  obtain ⟨q, -, s, hs, j, hj, rfl, -⟩ := h
  rw [length, hs]
  exact (Array.getElem?_eq_some_iff.1 hj).1

theorem Coherent.move (hm : Move c ns n d) (h : Coherent c) : Coherent d := by
  cases hm with
  | note positionMs lastTickMs anchor => exact ⟨h.1, h.2, h.3⟩
  | ignore => exact h
  | start now hr hl hp => exact ⟨fun _ => hl, fun _ => hp, h.pointer_le⟩
  | stop => exact ⟨nofun, nofun, h.pointer_le⟩
  | execute hc ha =>
    refine ⟨h.stream_of_running, fun _ => rfl, ?_⟩
    rintro q hq
    cases hq
    have := lt_length_of_current? hc
    exact this
  | finish hc => exact ⟨nofun, nofun, nofun⟩

theorem Coherent.perform (ho : c.perform op m = .ok o) (h : Coherent c) : Coherent o.clock := by
  rcases perform_cases ho with ⟨-, hm⟩ | ⟨-, rfl⟩ | ⟨bytes, -, rfl⟩
  · exact hm.keep (fun _ _ _ _ hm hc => Coherent.move hm hc) h
  · refine ⟨h.stream_of_running, fun _ => rfl, ?_⟩
    rintro p hp
    cases hp
    exact Nat.zero_le _
  · refine ⟨fun _ => rfl, fun _ => rfl, ?_⟩
    rintro p hp
    cases hp
    exact Nat.zero_le _

theorem Coherent.run (hrun : c.run ops = .ok (outcomes, d)) (h : Coherent c) : Coherent d :=
  run_keep (Q := fun _ => True) (fun _ _ _ _ _ ho he => he.perform ho) (fun _ _ => trivial) hrun h

/-! ## Starts and stops -/

/-- Starts and stops have alternated, a start first, and the clock is running after a start. -/
def Paced (told : List Bool) (c : Clock) : Prop :=
  ∃ n, told = alternating n ∧ (c.running = true ↔ n % 2 = 1)

theorem Paced.of_running_eq {told : List Bool} (h : Paced told c) (hr : d.running = c.running) :
    Paced told d := by
  obtain ⟨n, rfl, hn⟩ := h
  exact ⟨n, rfl, by rw [hr, hn]⟩

theorem Paced.start {told : List Bool} (h : Paced told c) (hr : c.running = false)
    (hd : d.running = true) : Paced (told ++ [true]) d := by
  obtain ⟨n, rfl, hn⟩ := h
  have h0 : n % 2 = 0 := by
    rw [hr] at hn
    have : ¬ n % 2 = 1 := fun h1 => nomatch hn.2 h1
    omega
  refine ⟨n + 1, ?_, ?_⟩
  · rw [alternating_succ, decide_eq_true h0]
  · simp only [hd, true_iff]
    omega

/-- Stopping tells of a stop just where the clock was running. -/
theorem Paced.stop {told : List Bool} (h : Paced told c) (hd : d.running = false) :
    Paced (told ++ if c.running then [false] else []) d := by
  obtain ⟨n, rfl, hn⟩ := h
  cases hr : c.running with
  | false =>
    rw [hr] at hn
    refine ⟨n, by simp, ?_⟩
    rw [hd, hn]
  | true =>
    have h1 : n % 2 = 1 := hn.1 hr
    refine ⟨n + 1, ?_, ?_⟩
    · rw [alternating_succ, decide_eq_false (by omega)]
      rfl
    · simp only [hd, Bool.false_eq_true, false_iff]
      omega

theorem toggles_stop (c : Clock) :
    c.stop.2.filterMap Notice.toggle? = if c.running then [false] else [] := by
  unfold Clock.stop
  cases c.running <;> rfl

theorem toggles_finish (c : Clock) :
    c.finish.2.filterMap Notice.toggle? = if c.running then [false] else [] := by
  unfold finish
  rw [List.filterMap_append, toggles_stop]
  cases c.pointer <;> rfl

theorem Paced.move {told : List Bool} (hm : Move c ns n d) (h : Paced told c) :
    Paced (told ++ ns.filterMap Notice.toggle?) d := by
  cases hm with
  | note positionMs lastTickMs anchor =>
    rw [List.filterMap_nil, List.append_nil]
    exact h.of_running_eq rfl
  | ignore =>
    rw [show [Notice.event _].filterMap Notice.toggle? = [] from rfl, List.append_nil]
    exact h
  | start now hr hl hp => exact h.start hr rfl
  | stop =>
    rw [toggles_stop]
    exact h.stop rfl
  | execute hc ha =>
    rw [filterMap_toggle_diagnostics, List.append_nil]
    exact h.of_running_eq rfl
  | finish hc =>
    rw [toggles_finish]
    exact h.stop rfl

theorem Paced.moves {told : List Bool} (hm : Moves c ns n d) (h : Paced told c) :
    Paced (told ++ ns.filterMap Notice.toggle?) d := by
  induction hm with
  | refl => simpa using h
  | tail _ hm ih =>
    rw [List.filterMap_append, ← List.append_assoc]
    exact ih.move hm

theorem Paced.perform {told : List Bool} (ho : c.perform op m = .ok o) (h : Paced told c) :
    Paced (told ++ o.notices.filterMap Notice.toggle?) o.clock := by
  rcases perform_cases ho with ⟨-, hm⟩ | ⟨-, rfl⟩ | ⟨bytes, -, rfl⟩
  · exact h.moves hm
  · rw [List.filterMap_nil, List.append_nil]
    exact h.of_running_eq rfl
  · rw [load_snd, List.filterMap_append, filterMap_toggle_diagnostics, List.nil_append,
      show [Notice.event _].filterMap Notice.toggle? = [] from rfl, List.append_nil]
    exact h.of_running_eq rfl

/-! ## Loading and finishing -/

theorem isSome_stream_perform (ho : c.perform op m = .ok o) :
    o.clock.stream.isSome = true ↔ c.stream.isSome = true ∨ op.loads = true := by
  rcases perform_cases ho with ⟨hop, hm⟩ | ⟨rfl, rfl⟩ | ⟨bytes, rfl, rfl⟩
  · have hl : op.loads = false := by cases op <;> first | rfl | cases hop
    simp [hm.stream_eq, hl]
  · simp [Op.loads, reset]
  · exact ⟨fun _ => .inr rfl, fun _ => rfl⟩

/-- A stream that has run out stays so. -/
theorem Move.phase_finished (hm : Move c ns n d) (h : c.phase = .finished) :
    d.phase = .finished := by
  obtain ⟨hs, hr, hp⟩ := phase_eq_finished_iff.1 h
  rw [phase_eq_finished_iff]
  cases hm with
  | note positionMs lastTickMs anchor => exact ⟨hs, hr, hp⟩
  | ignore => exact ⟨hs, hr, hp⟩
  | start now _ _ hp' =>
    rw [hp] at hp'
    cases hp'
  | stop => exact ⟨hs, rfl, hp⟩
  | execute hc ha =>
    simp only [current?, hp, bind, Option.bind_none] at hc
    cases hc
  | finish hc => exact ⟨hs, rfl, rfl⟩

theorem run_coherent {t : OpcodeTable} {syncOffsetMs : Float}
    (h : (fresh t syncOffsetMs).run ops = .ok (outcomes, c)) :
    Coherent c ∧ Paced (toggles outcomes) c
      ∧ (c.stream.isSome = true ↔ ∃ x ∈ ops, x.1.loads = true) := by
  refine run_induction (P := fun ops outcomes c => Coherent c ∧ Paced (toggles outcomes) c
    ∧ (c.stream.isSome = true ↔ ∃ x ∈ ops, x.1.loads = true)) ?_ ?_ h
  · refine ⟨coherent_fresh t syncOffsetMs, ⟨0, rfl, by simp [fresh]⟩, ?_⟩
    simp [fresh]
  · rintro ops outcomes e op m o - ⟨hc, hp, hs⟩ ho
    refine ⟨hc.perform ho, ?_, ?_⟩
    · rw [toggles_concat]
      exact hp.perform ho
    · rw [isSome_stream_perform ho, hs]
      simp [or_and_right, exists_or]

/-- What the operations so far, what they told and the fields of the clock say of each other. -/
structure Lifecycle (ops : List (Op × Moment)) (outcomes : List Outcome) (c : Clock) : Prop where
  placed_of_running : c.running = true → c.stream.isSome = true ∧ c.pointer.isSome = true
  pointer_le : ∀ p, c.pointer = some p → p ≤ c.length
  idle_iff : c.phase = .idle ↔ ∀ x ∈ ops, x.1.loads = false
  finished_of_no_pointer : c.stream.isSome = true → c.pointer = none →
    c.running = false ∧ c.phase = .finished
  finished_stays : c.phase = .finished → ∀ op m o, op.rewinds = false → c.perform op m = .ok o →
    o.clock.phase = .finished
  toggles_alternate : ∀ (i : Nat) (hi : i < (toggles outcomes).length),
    (toggles outcomes)[i] = decide (i % 2 = 0)
  running_iff : c.running = true ↔ (toggles outcomes).getLast? = some true
  /-- The log says the same in its messages. -/
  messages_alternate : ∀ (i : Nat) (hi : i < (toggleMessages outcomes).length),
    (toggleMessages outcomes)[i] = if i % 2 = 0 then "playback started" else "playback stopped"
  running_iff_message : c.running = true
    ↔ (toggleMessages outcomes).getLast? = some "playback started"

/-- After every run of a new clock: it runs only with a stream and a pointer, which lies within the
stream; it is idle until something is loaded and never again; without a pointer a loaded clock has
finished, and only a load or a reset takes it out of that; and starts and stops of playback have
alternated from a start on, the last of them a start just where it runs, and so have their messages
in the log. -/
theorem run_lifecycle {t : OpcodeTable} {syncOffsetMs : Float}
    (h : (fresh t syncOffsetMs).run ops = .ok (outcomes, c)) : Lifecycle ops outcomes c := by
  obtain ⟨hc, ⟨n, hn, hr⟩, hl⟩ := run_coherent h
  refine ⟨fun hr => ⟨hc.stream_of_running hr, hc.pointer_of_running hr⟩, hc.pointer_le, ?_, ?_, ?_,
    ?_, ?_, ?_, ?_⟩
  · rw [phase_eq_idle_iff, ← Option.not_isSome_iff_eq_none, hl]
    simp
  · intro hs hp
    have hrun : c.running = false := by
      by_contra hrun
      rw [Bool.not_eq_false] at hrun
      have := hc.pointer_of_running hrun
      rw [hp] at this
      cases this
    exact ⟨hrun, phase_eq_finished_iff.2 ⟨hs, hrun, hp⟩⟩
  · intro hf op m o hop ho
    exact (moves_of_perform hop ho).keep (P := fun e => e.phase = .finished)
      (fun _ _ _ _ hm he => hm.phase_finished he) hf
  · rw [hn]
    intro i hi
    simp [alternating]
  · rw [hn, getLast?_alternating]
    exact hr
  · rw [toggleMessages_eq, hn]
    intro i hi
    simp [alternating, toggleMessage]
  · rw [toggleMessages_eq, hn, List.getLast?_map, hr, ← getLast?_alternating]
    rcases (alternating n).getLast? with _ | _ | _ <;> simp [toggleMessage]

/-- Playback that is asked for too early, started, stopped by the host, started again and stopped
by the end of the stream. -/
theorem run_lifecycle_finished :
    let bytes := (Instruction.memoryPreset 5 0).packet.bytes.toList
    let ops := [Op.play, .load bytes, .play, .step, .stop, .play, .step].map
      fun op => (op, (⟨0.0, .proceed⟩ : Moment))
    ∃ outcomes c, (fresh .standard 0.0).run ops = .ok (outcomes, c)
      ∧ toggles outcomes = [true, false, true, false] ∧ c.phase = .finished
      ∧ Lifecycle ops outcomes c := by
  intro bytes ops
  have hd : OpcodeTable.standard.decodeStream bytes = ([.memoryPreset 5 0], []) := by
    decide +kernel
  have h : ∃ outcomes c, (fresh .standard 0.0).run ops = .ok (outcomes, c)
      ∧ toggles outcomes = [true, false, true, false] ∧ c.phase = .finished := by
    simp only [ops, List.map_cons, List.map_nil, run, perform, load, bind, Except.bind]
    rw [show (((fresh .standard 0.0).play 0.0).1).table = .standard from rfl, hd]
    exact ⟨_, _, rfl, rfl, rfl⟩
  obtain ⟨outcomes, c, h, ht, hf⟩ := h
  exact ⟨outcomes, c, h, ht, hf, run_lifecycle h⟩

end Clock

end CdGraphics
