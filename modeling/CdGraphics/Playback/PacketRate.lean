/-!
# The packet rate

A disc plays 75 sectors a second of four packets each, so that a time in milliseconds names the
packet that it has reached.
-/

namespace CdGraphics

/-- How fast packets go by. -/
structure PacketRate where
  sectorsPerSecond : Nat
  packetsPerSector : Nat
deriving DecidableEq, Repr

namespace PacketRate

/-- The rate of a disc: 300 packets a second. -/
def disc : PacketRate := ⟨75, 4⟩

def packetsPerSecond (r : PacketRate) : Nat := r.sectorsPerSecond * r.packetsPerSector

theorem packetsPerSecond_disc : disc.packetsPerSecond = 300 := rfl

/-- The packet that a position has reached, rounded down. A position before the start, or none at
all, has reached packet 0, and 64 bits hold the greatest count. -/
def packetsAt (r : PacketRate) (ms : Float) : Nat :=
  (Float.ofNat r.packetsPerSecond * ms / 1000.0).toUInt64.toNat

/-- The position at which a packet begins. -/
def startOf (r : PacketRate) (packets : Nat) : Float :=
  Float.ofNat packets * 1000.0 / Float.ofNat r.packetsPerSecond

end PacketRate

end CdGraphics
