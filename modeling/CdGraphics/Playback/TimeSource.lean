/-!
# Sources of wall time

A clock never reads time itself: its host reads a source, and hands over milliseconds.
-/

namespace CdGraphics

/-- Time that the host moves by hand. -/
structure ManualTime where
  nowMs : Float

namespace ManualTime

def set (_ : ManualTime) (ms : Float) : ManualTime := ⟨ms⟩

/-- Moves on by a span, which may be negative. -/
def advance (t : ManualTime) (ms : Float) : ManualTime := ⟨t.nowMs + ms⟩

end ManualTime

/-- Time since an origin on a counter of nanoseconds that never goes back. -/
structure MonotonicTime where
  originNs : Nat

/-- The milliseconds since the origin, whole seconds and the rest of the nanoseconds added up in
seconds first. -/
def MonotonicTime.readingMs (t : MonotonicTime) (nowNs : Nat) : Float :=
  let elapsed := nowNs - t.originNs
  (Float.ofNat (elapsed / 1000000000) + Float.ofNat (elapsed % 1000000000) / 1000000000.0) * 1000.0

end CdGraphics
