import CdGraphics.Proofs.Advance
import CdGraphics.Proofs.Outcome
import CdGraphics.Proofs.Pass
import CdGraphics.Proofs.Safety
import CdGraphics.Proofs.Timing

/-!
# What one tick does

Advancing goes packet by packet, and comes to drawing all of them at once (`advance_eq`): the clock
is then at the packet asked for or, if that lies past the end, off the stream (`sentTo`). So the
outcome of a tick is a closed expression of the clock and the time (`tick_eq`), and
`perform_tick_of_run` reads off it what becomes of each part, whatever the host answers.
-/

namespace CdGraphics

namespace Clock

/-- The clock at a packet, with the raster that everything before it was drawn on, or off the stream
if the packet lies past its end; and what it tells of that. -/
def sentTo (c : Clock) (target : Nat) (raster : Raster) : Clock × List Notice :=
  if target ≤ c.length then ({ c with raster := raster, pointer := some target }, [])
  else finish { c with raster := raster, pointer := some c.length }

variable {c : Clock} {s : Array Instruction} {p target : Nat} {o : Outcome} {now : Float}
  {ops : List (Op × Moment)} {outcomes : List Outcome}

theorem advanceOne_of_current? {i : Instruction} (h : c.current? = some (p, i)) : c.advanceOne
    = (i.apply c.raster).map fun out =>
        ({ c with raster := out.1, pointer := some (p + 1) }, out.2.map .diagnostic, true) := by
  unfold advanceOne
  simp only [h]
  rcases i.apply c.raster with fault | out <;> rfl

theorem advanceOne_of_no_current (h : c.current? = none) :
    c.advanceOne = .ok (c.finish.1, c.finish.2, false) := by
  unfold advanceOne
  simp only [h]

/-- An advance is one drawing of all instructions that it passes. -/
theorem advance_eq : ∀ (count : Nat) {c : Clock} {p : Nat}, c.stream = some s →
    c.pointer = some p → p ≤ s.size →
    advance count c = (c.raster.execute ((s.toList.take (p + count)).drop p)).map fun out =>
      ((c.sentTo (p + count) out.1).1,
        out.2.map .diagnostic ++ (c.sentTo (p + count) out.1).2, min (p + count) s.size - p)
  | 0, c, p, hs, hp, hle => by
    have hhere : c.sentTo p c.raster = (c, []) := by
      have hlen : p ≤ c.length := by rwa [length_of_stream hs]
      rw [sentTo, if_pos hlen, ← hp]
    have hnone : (s.toList.take p).drop p = [] := by simp
    simp only [Nat.add_zero, hnone, Raster.execute, Except.map, hhere, Nat.min_eq_left hle,
      Nat.sub_self]
    rfl
  | count + 1, c, p, hs, hp, hle => by
    rw [advance, hp]
    rcases Nat.lt_or_eq_of_le hle with hlt | rfl
    · have hcur : c.current? = some (p, s[p]) :=
        (current?_eq_some hs).2 ⟨hp, Array.getElem?_eq_getElem hlt⟩
      have htarget : p + (count + 1) = p + 1 + count := by omega
      have hcons : (s.toList.take (p + 1 + count)).drop p
          = s[p] :: (s.toList.take (p + 1 + count)).drop (p + 1) := by
        rw [List.drop_eq_getElem_cons (by simp; omega)]
        simp
      rw [htarget, hcons]
      simp only [advanceOne_of_current? hcur]
      rcases ha : s[p].apply c.raster with fault | ⟨raster, told⟩
      · rw [Raster.execute_cons_of_error ha]
        rfl
      · have ih := advance_eq count (c := { c with raster := raster, pointer := some (p + 1) }) hs
          rfl hlt
        rw [Raster.execute_cons_of_ok ha]
        simp only [Except.map, bind, Except.bind, ih]
        rcases raster.execute ((s.toList.take (p + 1 + count)).drop (p + 1)) with fault | out
        · rfl
        · have hcount : min (p + 1 + count) s.size - (p + 1) + 1
              = min (p + 1 + count) s.size - p := by omega
          simp only [pure, Except.pure, List.map_append, List.append_assoc, Bool.toNat_true, hcount]
          rfl
    · -- At the end the first step leaves the stream, and there is no pointer for the others.
      have hcur : c.current? = none :=
        (current?_eq_none_iff hp).2 (Nat.le_of_eq (length_of_stream hs))
      have hgone : c.sentTo (s.size + (count + 1)) c.raster = c.finish := by
        have hpast : ¬ s.size + (count + 1) ≤ c.length := by
          rw [length_of_stream hs]
          omega
        rw [sentTo, if_neg hpast, length_of_stream hs, ← hp]
      have hnone : (s.toList.take (s.size + (count + 1))).drop s.size = [] := by simp
      have hcount : min (s.size + (count + 1)) s.size - s.size = 0 := by omega
      simp only [advanceOne_of_no_current hcur, hnone, Raster.execute, Except.map, hgone, hcount,
        bind, Except.bind, advance_of_no_pointer (c := c.finish.1) rfl, List.append_nil]
      rfl

theorem raster_sentTo (c : Clock) (target : Nat) (raster : Raster) :
    (c.sentTo target raster).1.raster = raster := by
  unfold sentTo
  split_ifs <;> rfl

theorem diagnostics_sentTo (c : Clock) (target : Nat) (raster : Raster) :
    (c.sentTo target raster).2.filterMap Notice.diagnostic? = [] := by
  unfold sentTo
  split_ifs
  · rfl
  · exact diagnostics_finish _

/-- What a tick that goes past the pointer `p` of a clock on `s`, to a packet, leaves and hands over
when the host gives an answer. -/
structure Carried (c : Clock) (s : Array Instruction) (p target : Nat) (answer : Answer)
    (o : Outcome) : Prop where
  drawn : c.raster.execute ((s.toList.take target).drop p) = .ok (o.clock.raster, o.diagnostics)
  executed : o.executed = min target s.size - p
  delivered : ∃ picture, o.frame = some picture ∧ o.clock.raster.compose = .ok picture
  going : target ≤ s.size → answer = .proceed → o.clock.phase = .running
    ∧ o.clock = { c with raster := o.clock.raster, pointer := some target }
  halted : target ≤ s.size → answer = .halt → o.clock.phase = .ready
    ∧ o.clock = { c with
        raster := o.clock.raster, pointer := some target, running := false, anchor := none }
  finished : s.size < target → o.clock.phase = .finished
    ∧ o.clock = { c with
        raster := o.clock.raster, pointer := none, running := false, anchor := none }

theorem sentTo_of_le (hs : c.stream = some s) (h : target ≤ s.size) (raster : Raster) :
    c.sentTo target raster = ({ c with raster := raster, pointer := some target }, []) :=
  if_pos (by rwa [length_of_stream hs])

theorem sentTo_of_lt (hs : c.stream = some s) (h : s.size < target) (raster : Raster) :
    c.sentTo target raster = finish { c with raster := raster, pointer := some c.length } :=
  if_neg (by rw [length_of_stream hs]; omega)

theorem carried_heed (hs : c.stream = some s) (hr : c.running = true) {raster : Raster}
    {told : List Diagnostic} {picture : Frame}
    (hd : c.raster.execute ((s.toList.take target).drop p) = .ok (raster, told))
    (hf : raster.compose = .ok picture) (answer : Answer) :
    Carried c s p target answer (Outcome.heed ⟨(c.sentTo target raster).1,
      told.map .diagnostic ++ (c.sentTo target raster).2, min target s.size - p, some picture⟩
      answer) := by
  have hgoing : (told.map Notice.diagnostic ++ (c.sentTo target raster).2).filterMap
      Notice.diagnostic? = told := by
    rw [List.filterMap_append, filterMap_diagnostic, diagnostics_sentTo, List.append_nil]
  have hstopped : (told.map Notice.diagnostic ++ (c.sentTo target raster).2
      ++ (c.sentTo target raster).1.stop.2).filterMap Notice.diagnostic? = told := by
    rw [List.filterMap_append, hgoing, diagnostics_stop, List.append_nil]
  have hraster := raster_sentTo c target raster
  cases answer with
  | proceed =>
    refine ⟨?_, rfl, ⟨picture, rfl, ?_⟩, fun hle _ => ?_, fun _ => nofun, fun hlt => ?_⟩
    · simp only [Outcome.heed, Outcome.diagnostics, hgoing, hraster, hd]
    · simp only [Outcome.heed, hraster, hf]
    · simp only [Outcome.heed, sentTo_of_le hs hle]
      simp [phase, hs, hr]
    · simp only [Outcome.heed, sentTo_of_lt hs hlt]
      simp [phase, hs, finish, stop]
  | halt =>
    refine ⟨?_, rfl, ⟨picture, rfl, ?_⟩, fun _ => nofun, fun hle _ => ?_, fun hlt => ?_⟩
    · simp only [Outcome.heed, Outcome.diagnostics, hstopped, stop_fst, hraster, hd]
    · simp only [Outcome.heed, stop_fst, hraster, hf]
    · simp only [Outcome.heed, sentTo_of_le hs hle]
      simp [phase, hs, stop]
    · simp only [Outcome.heed, sentTo_of_lt hs hlt]
      simp [phase, hs, finish, stop]

theorem Carried.pointer_eq {answer : Answer} (h : Carried c s p target answer o) :
    o.clock.pointer = if target ≤ s.size then some target else none := by
  split_ifs with hle
  · cases answer with
    | proceed => rw [(h.going hle rfl).2]
    | halt => rw [(h.halted hle rfl).2]
  · rw [(h.finished (Nat.lt_of_not_le hle)).2]

section Moving

variable (hs : c.stream = some s) (hr : c.running = true) (hp : c.pointer = some p)
  (hle : p ≤ s.size) (ht : c.targetAt now = target) (hlt : p < target) {m : Moment}

include hs hr hp hle ht hlt

/-- A tick to a packet past the pointer draws what lies before it, in one go, and hands over the
picture of that. -/
theorem tick_eq : c.tick now = do
    let out ← c.raster.execute ((s.toList.take target).drop p)
    let picture ← out.1.compose
    let sent := (c.retime now).sentTo target out.1
    return ⟨sent.1, out.2.map .diagnostic ++ sent.2, min target s.size - p, some picture⟩ := by
  have htarget : p + (target - p) = target := by omega
  have hraster : (c.retime now).raster = c.raster := rfl
  rw [tick_of_running hr hp, ht, if_neg (Nat.not_le_of_lt hlt),
    advance_eq _ (c := c.retime now) hs hp hle, htarget, hraster]
  generalize c.raster.execute ((s.toList.take target).drop p) = drawn
  show (_ <$> drawn) >>= _ = _
  rw [bind_map_left]
  refine congrArg (drawn >>= ·) (funext fun out => ?_)
  simp only [raster_sentTo]

theorem carried_of_perform_tick (ho : c.perform (.tick now) m = .ok o) :
    Carried (c.retime now) s p target m.answer o := by
  rw [perform, tick_eq hs hr hp hle ht hlt] at ho
  obtain ⟨o', ho', rfl⟩ := map_eq_ok.1 ho
  obtain ⟨⟨raster, told⟩, hd, ho'⟩ := bind_eq_ok.1 ho'
  obtain ⟨picture, hf, ho'⟩ := bind_eq_ok.1 ho'
  cases ho'
  exact carried_heed (c := c.retime now) hs hr hd hf m.answer

theorem exists_perform_tick_iff : (∃ o, c.perform (.tick now) m = .ok o) ↔
    ∃ raster told picture,
      c.raster.execute ((s.toList.take target).drop p) = .ok (raster, told)
        ∧ raster.compose = .ok picture := by
  constructor
  · rintro ⟨o, ho⟩
    have hc := carried_of_perform_tick hs hr hp hle ht hlt ho
    obtain ⟨picture, -, hf⟩ := hc.delivered
    exact ⟨_, _, picture, hc.drawn, hf⟩
  · rintro ⟨raster, told, picture, hd, hf⟩
    rw [perform, tick_eq hs hr hp hle ht hlt]
    exact ⟨_, map_eq_ok.2 ⟨_, bind_eq_ok.2 ⟨_, hd, bind_eq_ok.2 ⟨_, hf, rfl⟩⟩, rfl⟩⟩

end Moving

/-- A tick of a running clock sets the position to what the anchor, or else the last tick, makes of
its time. If the packet reached there is not past the pointer, that is all. If it is, the tick
executes the instructions up to it, or up to the end, and hands over the one picture of that;
it fails only if drawing or composing does, never with the format's own constructors. The clock is
then at that packet, running on as the host answers, or it has left the stream. -/
theorem perform_tick_of_run {t : OpcodeTable} {syncOffsetMs : Float}
    (h : (fresh t syncOffsetMs).run ops = .ok (outcomes, c)) (hr : c.running = true)
    (hp : c.pointer = some p) (now : Float) (m : Moment) :
    let position := match c.anchor with
      | some anchor => anchor.positionMs + (now - anchor.wallMs)
      | none => c.positionMs + (now - c.lastTickMs)
    let target := PacketRate.disc.packetsAt position
    let noted : Clock := { c with positionMs := position, lastTickMs := now }
    ∃ s, c.stream = some s ∧ p ≤ s.size
      ∧ (target ≤ p → c.perform (.tick now) m = .ok ⟨noted, [], 0, none⟩)
      ∧ (p < target → ((∃ o, c.perform (.tick now) m = .ok o) ↔ ∃ raster told picture,
          c.raster.execute ((s.toList.take target).drop p) = .ok (raster, told)
            ∧ raster.compose = .ok picture)
        ∧ (t.StandardOnly → ∃ o, c.perform (.tick now) m = .ok o)
        ∧ ∀ o, c.perform (.tick now) m = .ok o → Carried noted s p target m.answer o)
      ∧ ∀ o, c.perform (.tick now) m = .ok o → o.clock.positionMs = position
        ∧ o.clock.lastTickMs = now ∧ ∀ q, o.clock.pointer = some q → p ≤ q := by
  intro position target noted
  obtain ⟨hc, -, -⟩ := run_coherent h
  obtain ⟨s, hs⟩ := Option.isSome_iff_exists.1 (hc.stream_of_running hr)
  have hle : p ≤ s.size := by
    rw [← length_of_stream hs]
    exact hc.pointer_le p hp
  have htarget : c.targetAt now = target := by
    have hrate : c.rate = PacketRate.disc := (setup_of_run h).2
    rw [targetAt, hrate]
    rfl
  have hstays : target ≤ p → c.perform (.tick now) m = .ok ⟨noted, [], 0, none⟩ := by
    intro hstay
    rw [perform, tick_of_running hr hp, if_pos (htarget.trans_le hstay)]
    rfl
  have hcarried : ∀ o, p < target → c.perform (.tick now) m = .ok o →
      Carried noted s p target m.answer o :=
    fun _ hmove ho => carried_of_perform_tick hs hr hp hle htarget hmove ho
  refine ⟨s, hs, hle, hstays, fun hmove => ⟨exists_perform_tick_iff hs hr hp hle htarget hmove,
    fun ht => ?_, fun o => hcarried o hmove⟩, fun o ho => ?_⟩
  · obtain ⟨outcomes', d, hd⟩ := run_ok_of_run ht h [(.tick now, m)]
    obtain ⟨o, -, ho, -, -⟩ := run_cons_eq_ok.1 hd
    exact ⟨o, ho⟩
  · obtain ⟨hposition, hlast⟩ := (timing_of_perform ho).of_tick hr (by rw [hp]; rfl)
    refine ⟨hposition, hlast, fun q hq => ?_⟩
    rcases Nat.lt_or_ge p target with hmove | hstay
    · rw [(hcarried o hmove ho).pointer_eq] at hq
      split_ifs at hq
      cases hq
      exact Nat.le_of_lt hmove
    · rw [hstays hstay, Except.ok.injEq] at ho
      rw [← ho] at hq
      exact Nat.le_of_eq (Option.some.inj (hp.symm.trans hq))

/-- All of a stream of one packet has been played when a tick is to reach the third: it executes
nothing and hands over a picture all the same. -/
theorem perform_tick_of_run_last :
    let bytes := (Instruction.memoryPreset 5 0).packet.bytes.toList
    let ops := [Op.load bytes, .play, .step].map fun op => (op, (⟨0.0, .proceed⟩ : Moment))
    ∃ outcomes c o, (fresh .standard 0.0).run ops = .ok (outcomes, c) ∧ c.running = true
      ∧ c.pointer = some 1 ∧ c.length = 1 ∧ PacketRate.disc.packetsAt 10.0 = 3
      ∧ c.perform (.tick 10.0) ⟨10.0, .halt⟩ = .ok o ∧ o.executed = 0
      ∧ (∃ picture, o.frame = some picture ∧ c.raster.compose = .ok picture)
      ∧ o.clock.pointer = none ∧ o.clock.phase = .finished ∧ o.clock.positionMs = 10.0 := by
  intro bytes ops
  have hd : OpcodeTable.standard.decodeStream bytes = ([.memoryPreset 5 0], []) := by
    decide +kernel
  have h : ∃ outcomes c, (fresh .standard 0.0).run ops = .ok (outcomes, c) ∧ c.running = true
      ∧ c.pointer = some 1 ∧ c.stream = some #[.memoryPreset 5 0] ∧ c.anchor = none
      ∧ c.positionMs = 0.0 ∧ c.lastTickMs = 0.0 := by
    simp only [ops, List.map_cons, List.map_nil, run, perform, load]
    rw [show (fresh .standard 0.0).table = .standard from rfl, hd]
    exact ⟨_, _, rfl, rfl, rfl, rfl, rfl, rfl, rfl⟩
  obtain ⟨outcomes, c, h, hr, hp, hs, ha, hposition, hlast⟩ := h
  have hten : (0.0 + (10.0 - 0.0) : Float) = 10.0 := by decide +kernel
  have hthree : PacketRate.disc.packetsAt 10.0 = 3 := by decide +kernel
  obtain ⟨s, hs', -, -, hmoves, htimes⟩ := perform_tick_of_run h hr hp 10.0 ⟨10.0, .halt⟩
  obtain rfl := Option.some.inj (hs.symm.trans hs')
  simp only [ha, hposition, hlast, hten, hthree] at hmoves htimes
  obtain ⟨-, hok, hcarried⟩ := hmoves (by decide)
  obtain ⟨o, ho⟩ := hok OpcodeTable.standardOnly_standard
  have hcarry := hcarried o ho
  obtain ⟨picture, hframe, hcompose⟩ := hcarry.delivered
  have hraster : o.clock.raster = c.raster :=
    (congrArg Prod.fst (Except.ok.inj hcarry.drawn)).symm
  refine ⟨outcomes, c, o, h, hr, hp, length_of_stream hs, hthree, ho, hcarry.executed,
    ⟨picture, hframe, by rw [← hraster]; exact hcompose⟩, hcarry.pointer_eq,
    (hcarry.finished (by decide)).1, (htimes o ho).1⟩

end Clock

end CdGraphics
