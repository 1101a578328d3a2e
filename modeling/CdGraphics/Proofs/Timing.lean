import CdGraphics.Proofs.Advance

/-!
# What operations do to the times

A clock keeps time in three fields: its position, its last tick and the anchor. Advancing touches
none of them, except that leaving the stream stops the clock and drops the anchor (`KeepsTime`);
what else there is to them is a rewind, a start, a sync, and the note that a tick of a running clock
takes. `timing_of_perform` takes every operation apart in this way.
-/

namespace CdGraphics

/-- The operation moves within the stream, stops or shows the picture, none of which looks at the
time. -/
def Op.timeless : Op → Bool
  | step | fastForward _ | stop | render => true
  | _ => false

/-- The operation is a tick. -/
def Op.isTick : Op → Bool
  | tick _ => true
  | _ => false

namespace Clock

variable {c d e : Clock} {ns : List Notice} {n : Nat} {op : Op} {m : Moment} {o : Outcome}

/-- The times are as they were, and either playback goes on as it did or it has been stopped, which
drops the anchor. -/
structure KeepsTime (c d : Clock) : Prop where
  positionMs_eq : d.positionMs = c.positionMs
  lastTickMs_eq : d.lastTickMs = c.lastTickMs
  going_or_stopped :
    d.running = c.running ∧ d.anchor = c.anchor ∨ d.running = false ∧ d.anchor = none

theorem KeepsTime.refl (c : Clock) : KeepsTime c c := ⟨rfl, rfl, .inl ⟨rfl, rfl⟩⟩

theorem KeepsTime.trans (h : KeepsTime c d) (h' : KeepsTime d e) : KeepsTime c e := by
  refine ⟨h'.positionMs_eq.trans h.positionMs_eq, h'.lastTickMs_eq.trans h.lastTickMs_eq, ?_⟩
  rcases h'.going_or_stopped with ⟨hr', ha'⟩ | hs'
  · rw [hr', ha']
    exact h.going_or_stopped
  · exact .inr hs'

theorem KeepsTime.running_eq_false (h : KeepsTime c d) (hr : c.running = false) :
    d.running = false := by
  rcases h.going_or_stopped with ⟨hd, -⟩ | ⟨hd, -⟩
  · rw [hd, hr]
  · exact hd

theorem KeepsTime.anchor_cases (h : KeepsTime c d) : d.anchor = none ∨ d.anchor = c.anchor := by
  rcases h.going_or_stopped with ⟨-, hd⟩ | ⟨-, hd⟩
  · exact .inr hd
  · exact .inl hd

theorem KeepsTime.anchor_eq_none (h : KeepsTime c d) (ha : c.anchor = none) :
    d.anchor = none := by
  rcases h.anchor_cases with hd | hd
  · exact hd
  · rw [hd, ha]

theorem keepsTime_stop (c : Clock) : KeepsTime c c.stop.1 := ⟨rfl, rfl, .inr ⟨rfl, rfl⟩⟩

theorem keepsTime_finish (c : Clock) : KeepsTime c c.finish.1 := ⟨rfl, rfl, .inr ⟨rfl, rfl⟩⟩

theorem keepsTime_of_advanceOne {b : Bool} (h : c.advanceOne = .ok (d, ns, b)) :
    KeepsTime c d := by
  rcases advanceOne_cases h with ⟨p, i, raster, -, -, rfl⟩ | ⟨-, -, rfl⟩
  · exact ⟨rfl, rfl, .inl ⟨rfl, rfl⟩⟩
  · exact keepsTime_finish c

theorem keepsTime_of_advance : ∀ {count : Nat} {c d : Clock} {ns : List Notice} {n : Nat},
    advance count c = .ok (d, ns, n) → KeepsTime c d
  | 0, c, d, ns, n, h => by
    cases h
    exact .refl c
  | count + 1, c, d, ns, n, h => by
    unfold advance at h
    split at h
    · cases h
      exact .refl c
    · obtain ⟨⟨c', ms, b⟩, h1, h⟩ := bind_eq_ok.1 h
      obtain ⟨⟨c'', ks, k⟩, h2, h⟩ := bind_eq_ok.1 h
      cases h
      exact (keepsTime_of_advanceOne h1).trans (keepsTime_of_advance h2)

theorem keepsTime_heed (o : Outcome) (a : Answer) : KeepsTime o.clock (o.heed a).clock := by
  unfold Outcome.heed
  split
  · exact keepsTime_stop o.clock
  · exact .refl o.clock

theorem keepsTime_of_render (h : c.render = .ok o) : KeepsTime c o.clock := by
  obtain ⟨f, -, h⟩ := bind_eq_ok.1 h
  cases h
  exact .refl c

/-- A tick of a running clock takes note of its time, and keeps that. -/
theorem keepsTime_of_tick {p : Nat} {now : Float} (hr : c.running = true)
    (hp : c.pointer = some p) (h : c.tick now = .ok o) : KeepsTime (c.retime now) o.clock := by
  rcases tick_cases hr hp h with ⟨-, rfl⟩ | ⟨-, ha, -⟩
  · exact .refl _
  · exact keepsTime_of_advance ha

/-- What an operation makes of a clock's times. -/
inductive Timing (c : Clock) (m : Moment) : Op → Clock → Prop
  | rewind {op : Op} {d : Clock} : op.rewinds = true → d.running = c.running →
      d.positionMs = 0.0 → d.lastTickMs = c.lastTickMs → d.anchor = none → Timing c m op d
  | keep {op : Op} {d : Clock} : op.timeless = true → KeepsTime c d → Timing c m op d
  | start : c.running = false → c.stream.isSome = true → c.pointer.isSome = true →
      Timing c m .play { c with running := true, lastTickMs := m.wallMs }
  | play : c.running = true ∨ c.stream = none ∨ c.pointer = none → Timing c m .play c
  | sync (ms : Float) : Timing c m (.sync ms) (c.sync ms m.wallMs)
  | tick {now : Float} {d : Clock} : c.running = true → c.pointer.isSome = true →
      KeepsTime (c.retime now) d → Timing c m (.tick now) d
  | rest {now : Float} : c.running = false ∨ c.pointer = none → Timing c m (.tick now) c

theorem timing_play (c : Clock) (m : Moment) : Timing c m .play (c.play m.wallMs).1 := by
  unfold Clock.play
  split_ifs with hr hl
  · exact .play (.inl hr)
  · rw [Bool.and_eq_true] at hl
    exact .start (by simpa using hr) hl.1 hl.2
  · refine .play (.inr ?_)
    rw [Bool.and_eq_true, not_and_or] at hl
    simpa using hl

theorem timing_of_tick {now : Float} (h : c.tick now = .ok o) :
    Timing c m (.tick now) (o.heed m.answer).clock := by
  rcases hr : c.running with _ | _
  · rw [tick_of_not_running hr] at h
    cases h
    exact .rest (.inl hr)
  · rcases hp : c.pointer with _ | p
    · unfold Clock.tick at h
      rw [hr, hp] at h
      cases h
      exact .rest (.inr hp)
    · have hk := (keepsTime_of_tick hr hp h).trans (keepsTime_heed o m.answer)
      exact .tick hr (by rw [hp]; rfl) hk

theorem timing_of_perform (h : c.perform op m = .ok o) : Timing c m op o.clock := by
  cases op with
  | load bytes =>
    rw [perform_load] at h
    cases h
    exact .rewind rfl rfl rfl rfl rfl
  | reset =>
    cases h
    exact .rewind rfl rfl rfl rfl rfl
  | step =>
    obtain ⟨⟨d, ns, b⟩, h1, h⟩ := bind_eq_ok.1 h
    cases h
    exact .keep rfl (keepsTime_of_advanceOne h1)
  | fastForward count =>
    obtain ⟨⟨d, ns, n⟩, h1, h⟩ := bind_eq_ok.1 h
    cases h
    exact .keep rfl (keepsTime_of_advance h1)
  | play =>
    cases h
    exact timing_play c m
  | stop =>
    cases h
    exact .keep rfl (keepsTime_stop c)
  | sync ms =>
    cases h
    exact .sync ms
  | render =>
    rw [perform] at h
    obtain ⟨o', h', rfl⟩ := map_eq_ok.1 h
    exact .keep rfl ((keepsTime_of_render h').trans (keepsTime_heed o' m.answer))
  | tick now =>
    rw [perform] at h
    obtain ⟨o', h', rfl⟩ := map_eq_ok.1 h
    exact timing_of_tick h'

/-- What looks at no time, and a tick of a stopped clock, keep the times. -/
theorem Timing.keepsTime (h : Timing c m op d)
    (hop : op.timeless = true ∨ op.isTick = true ∧ c.running = false) : KeepsTime c d := by
  cases h with
  | rewind hw => cases op <;> simp_all [Op.timeless, Op.isTick, Op.rewinds]
  | keep _ hk => exact hk
  | start | play | sync => simp [Op.timeless, Op.isTick] at hop
  | tick hr => simp [Op.timeless, hr] at hop
  | rest => exact .refl c

theorem Timing.of_tick {now : Float} (h : Timing c m (.tick now) d) (hr : c.running = true)
    (hp : c.pointer.isSome = true) : d.positionMs = c.positionAt now ∧ d.lastTickMs = now := by
  cases h with
  | rewind hw => cases hw
  | keep hop => cases hop
  | tick _ _ hk => exact ⟨hk.positionMs_eq, hk.lastTickMs_eq⟩
  | rest hidle =>
    rcases hidle with hstop | hnone
    · rw [hr] at hstop
      cases hstop
    · rw [hnone] at hp
      cases hp

end Clock

end CdGraphics
