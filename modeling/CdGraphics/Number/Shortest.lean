import CdGraphics.Number.Binary64

/-!
# The shortest decimal that reads back

Many decimals round to one floating-point number; they fill an interval around it. The shortest of
them is found on the coarsest grid of powers of ten that meets the interval (`shortest`): there it
is one of the two grid points next to the number, the nearer of them, and on a tie the one that a
`TieRule` says.
-/

namespace CdGraphics

/-- The number `digits * 10 ^ exponent`. -/
structure Decimal where
  digits : Nat
  exponent : Int
deriving DecidableEq, Repr

/-- Which of two neighbours a number half way between them goes to. -/
inductive TieRule where
  | up
  | toEven
deriving DecidableEq, Repr

/-- The numbers that round to `value / scale`: those between `low / scale` and `high / scale`, and
the ends themselves if it is closed. -/
structure RoundingInterval where
  low : Nat
  value : Nat
  high : Nat
  scale : Nat
  closed : Bool
deriving DecidableEq, Repr

namespace RoundingInterval

/-- The interval of `mantissa * 2 ^ exponent`. It reaches half way to its neighbours; below a
power of two the neighbour is half as far. Ties round to even mantissas, which so have closed
intervals. -/
def ofBinary (mantissa : Nat) (exponent : Int) : RoundingInterval :=
  let factor := Nat.pow 2 (exponent - 2).toNat
  let below := if mantissa = Nat.pow 2 52 ∧ -1074 < exponent then 1 else 2
  { low := (4 * mantissa - below) * factor
    value := 4 * mantissa * factor
    high := (4 * mantissa + 2) * factor
    scale := Nat.pow 2 (2 - exponent).toNat
    closed := mantissa % 2 = 0 }

/-- The number `count * 10 ^ power` lies in the interval. -/
def containsPoint (r : RoundingInterval) (count : Nat) (power : Int) : Bool :=
  let point := count * Nat.pow 10 power.toNat * r.scale
  let low := r.low * Nat.pow 10 (-power).toNat
  let high := r.high * Nat.pow 10 (-power).toNat
  if r.closed then decide (low ≤ point) && decide (point ≤ high)
  else decide (low < point) && decide (point < high)

/-- How many times `10 ^ power` goes into the number. -/
def quotient (r : RoundingInterval) (power : Int) : Nat :=
  r.value * Nat.pow 10 (-power).toNat / (Nat.pow 10 power.toNat * r.scale)

/-- The number goes to `count * 10 ^ power` rather than to the grid point above. -/
def goesBelow (r : RoundingInterval) (tie : TieRule) (count : Nat) (power : Int) : Bool :=
  let value := 2 * (r.value * Nat.pow 10 (-power).toNat)
  let middle := (2 * count + 1) * (Nat.pow 10 power.toNat * r.scale)
  decide (value < middle)
    || decide (value = middle) && decide (tie = .toEven) && decide (count % 2 = 0)

/-- The point of the grid of `10 ^ power` in the interval that is nearest to the number. -/
def gridPoint? (r : RoundingInterval) (tie : TieRule) (power : Int) : Option Nat :=
  let count := r.quotient power
  if r.containsPoint count power
      && (r.goesBelow tie count power || !r.containsPoint (count + 1) power)
  then some count
  else if r.containsPoint (count + 1) power then some (count + 1)
  else none

/-- The first grid point found on `grids` grids, each ten times as fine as the one before. -/
def shortestFrom (r : RoundingInterval) (tie : TieRule) : (grids : Nat) → (power : Int) → Decimal
  | 0, power => ⟨r.quotient power, power⟩
  | grids + 1, power =>
    match r.gridPoint? tie power with
    | some count => ⟨count, power⟩
    | none => r.shortestFrom tie grids (power - 1)

end RoundingInterval

/-- The shortest decimal that rounds to `mantissa * 2 ^ exponent`. The grids begin above the
greatest number and end where seventeen digits of the least are told apart. -/
def shortest (tie : TieRule) (mantissa : Nat) (exponent : Int) : Decimal :=
  (RoundingInterval.ofBinary mantissa exponent).shortestFrom tie 652 309

end CdGraphics
