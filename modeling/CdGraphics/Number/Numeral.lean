/-!
# Numerals

A numeral is a sign, digits and a power of ten. `Numeral.read?` takes one from a text in the usual
spellings, and `Numeral.toFloat` rounds it to the nearest floating-point number.
-/

namespace CdGraphics

/-- The number `digits * 10 ^ exponent`, with a sign. -/
structure Numeral where
  negative : Bool
  digits : Nat
  exponent : Int
deriving DecidableEq, Repr

/-- The value of a decimal digit. -/
def digitValue (c : Char) : Nat := c.toNat - 48

/-- The number that digits continue. -/
def extendDigits (n : Nat) (digits : List Char) : Nat :=
  digits.foldl (fun n c => 10 * n + digitValue c) n

namespace Numeral

/-- The digits at the start of a text, and what follows them. -/
def spanDigits (cs : List Char) : List Char × List Char :=
  (cs.takeWhile Char.isDigit, cs.dropWhile Char.isDigit)

/-- A sign at the start of a text, and what follows it. -/
def spanSign : List Char → Bool × List Char
  | '-' :: rest => (true, rest)
  | '+' :: rest => (false, rest)
  | cs => (false, cs)

/-- The exponent that a text consists of; none stands for 0. -/
def readExponent? : List Char → Option Int
  | [] => some 0
  | c :: rest =>
    let (negative, digits) := spanSign rest
    if (c = 'e' ∨ c = 'E') ∧ digits ≠ [] ∧ digits.all Char.isDigit then
      let n := extendDigits 0 digits
      some (if negative then -n else n)
    else none

/-- The numeral that an unsigned text consists of: digits, which a point may part, and an
exponent. -/
def readUnsigned? (negative : Bool) (cs : List Char) : Option Numeral :=
  let (whole, rest) := spanDigits cs
  let (places, rest) := match rest with
    | '.' :: rest => spanDigits rest
    | _ => ([], rest)
  if whole = [] ∧ places = [] then none
  else (readExponent? rest).map fun exponent =>
    ⟨negative, extendDigits (extendDigits 0 whole) places, exponent - places.length⟩

/-- The floating-point number nearest to a numeral. Exponents so large or so small that the digits
no longer matter are cut short. -/
def toFloat (n : Numeral) : Float :=
  let places := (toString n.digits).length
  let size :=
    if n.digits = 0 ∨ n.exponent + places < -400 then 0.0
    else if 400 < n.exponent then 1.0 / 0.0
    else if n.exponent < 0 then Float.ofScientific n.digits true n.exponent.natAbs
    else Float.ofScientific n.digits false n.exponent.natAbs
  if n.negative then -size else size

end Numeral

/-- The floating-point number of a text, which may also name infinity or say that it is none. -/
def readFloat? (text : String) : Option Float :=
  let (negative, rest) := Numeral.spanSign text.toList
  let word := rest.map Char.toLower
  if word = "inf".toList ∨ word = "infinity".toList then
    some (if negative then -(1.0 / 0.0) else 1.0 / 0.0)
  else if word = "nan".toList then some (0.0 / 0.0)
  else (Numeral.readUnsigned? negative rest).map Numeral.toFloat

end CdGraphics
