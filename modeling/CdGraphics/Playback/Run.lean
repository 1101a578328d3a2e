import CdGraphics.Playback.Clock

/-!
# Runs of a clock

A host drives a clock by operations, each at a moment that fixes the reading of its wall time and
its answer to a frame. A run is a list of them; `run_append` cuts it anywhere.
-/

namespace CdGraphics

/-- What a host can ask of a clock. -/
inductive Op where
  | load (bytes : List UInt8)
  | reset
  | step
  | fastForward (count : Nat)
  | play
  | stop
  | sync (ms : Float)
  | render
  | tick (now : Float)

/-- What the host brings to an operation. -/
structure Moment where
  wallMs : Float
  answer : Answer

namespace Clock

/-- Performs an operation at a moment. -/
def perform (c : Clock) (op : Op) (m : Moment) : Except Fault Outcome :=
  match op with
  | .load bytes =>
    let (c, notices) := c.load bytes
    .ok ⟨c, notices, 0, none⟩
  | .reset => .ok ⟨c.reset, [], 0, none⟩
  | .step => c.step
  | .fastForward count => c.fastForward count
  | .play =>
    let (c, notices) := c.play m.wallMs
    .ok ⟨c, notices, 0, none⟩
  | .stop =>
    let (c, notices) := c.stop
    .ok ⟨c, notices, 0, none⟩
  | .sync ms => .ok ⟨c.sync ms m.wallMs, [], 0, none⟩
  | .render => c.render.map (·.heed m.answer)
  | .tick now => (c.tick now).map (·.heed m.answer)

/-- Performs operations in order, and gives the outcome of each. -/
def run (c : Clock) : List (Op × Moment) → Except Fault (List Outcome × Clock)
  | [] => .ok ([], c)
  | (op, m) :: rest => do
    let outcome ← c.perform op m
    let (outcomes, c) ← outcome.clock.run rest
    return (outcome :: outcomes, c)

theorem run_nil (c : Clock) : c.run [] = .ok ([], c) := rfl

theorem run_append (c : Clock) (a b : List (Op × Moment)) :
    c.run (a ++ b) = do
      let (first, c) ← c.run a
      let (second, c) ← c.run b
      return (first ++ second, c) := by
  induction a generalizing c with
  | nil =>
    simp only [List.nil_append, run_nil, bind, Except.bind, pure, Except.pure]
    cases c.run b <;> rfl
  | cons x rest ih =>
    obtain ⟨op, m⟩ := x
    rw [List.cons_append, run, run]
    cases c.perform op m with
    | error fault => rfl
    | ok outcome =>
      simp only [bind, Except.bind, pure, Except.pure, ih]
      cases outcome.clock.run rest with
      | error fault => rfl
      | ok r =>
        cases hr : r.2.run b <;> simp only [hr]
        rfl

end Clock

end CdGraphics
