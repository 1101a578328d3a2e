import CdGraphics.Number.Numeral

/-!
# JSON numbers

A number is read as a significand of 64 bits, beyond which digits only count, and a power of ten,
which one multiplication or division by a power within range applies. Whole numbers that 64 bits
hold stay whole; one that is too large for a floating-point number is no number.
-/

namespace CdGraphics.Json

/-- A number as it is read. -/
inductive Number where
  | natural (value : Nat)
  /-- The whole number below zero of a size. -/
  | negative (size : Nat)
  | float (value : Float)

namespace Number

def toFloat : Number → Float
  | natural value => Float.ofNat value
  | negative size => -Float.ofNat size
  | float value => value

/-- Takes digits into a significand while 64 bits hold it; counts them. -/
def takeDigits (significand : Nat) : List Char → Nat × Nat × List Char
  | [] => (significand, 0, [])
  | c :: rest =>
    let next := 10 * significand + digitValue c
    if c.isDigit ∧ next < Nat.pow 2 64 then
      let (significand, count, rest) := takeDigits next rest
      (significand, count + 1, rest)
    else (significand, 0, c :: rest)

/-- A floating-point number times a power of ten, if it is finite. Powers below the least are
applied in part until nothing is left to scale. -/
def scale? (x : Float) (exponent : Int) : Option Float :=
  if exponent.natAbs ≤ 308 then
    let power := Float.ofScientific 1 false exponent.natAbs
    if 0 ≤ exponent then
      let scaled := x * power
      if scaled.isInf then none else some scaled
    else some (x / power)
  else if x == 0.0 then some x
  else if 0 ≤ exponent then none
  else scale? (x / 1e308) (exponent + 308)
termination_by exponent.natAbs

/-- The signed number of a significand and a power of ten. -/
def ofParts? (negative : Bool) (significand : Nat) (exponent : Int) : Option Number :=
  (scale? (Float.ofNat significand) exponent).map fun x => float (if negative then -x else x)

/-- Reads an exponent after its letter. One beyond 32 bits makes a number too large, or zero. -/
def readExponent? (negative : Bool) (significand : Nat) (start : Int) (cs : List Char) :
    Option (Number × List Char) :=
  let (below, cs) := Numeral.spanSign cs
  let (digits, rest) := Numeral.spanDigits cs
  let size := extendDigits 0 digits
  if digits = [] then none
  else if Nat.pow 2 31 ≤ size then
    if significand ≠ 0 ∧ !below then none
    else some (float (if negative then -0.0 else 0.0), rest)
  else (ofParts? negative significand (if below then start - size else start + size)).map (·, rest)

/-- Reads what may follow the digits of a number that is no longer whole. -/
def readTail? (negative : Bool) (significand : Nat) (exponent : Int) :
    List Char → Option (Number × List Char)
  | 'e' :: rest | 'E' :: rest => readExponent? negative significand exponent rest
  | cs => (ofParts? negative significand exponent).map (·, cs)

/-- Reads the digits after a point. -/
def readPlaces? (negative : Bool) (significand : Nat) (exponent : Int) (cs : List Char) :
    Option (Number × List Char) :=
  let (significand, count, rest) := takeDigits significand cs
  if (Numeral.spanDigits cs).1 = [] then none
  else readTail? negative significand (exponent - count) (Numeral.spanDigits rest).2

/-- Reads what may follow the whole digits of a number, of which `dropped` were only counted. -/
def readRest? (negative : Bool) (significand dropped : Nat) :
    List Char → Option (Number × List Char)
  | '.' :: rest => readPlaces? negative significand dropped rest
  | 'e' :: rest | 'E' :: rest => readExponent? negative significand dropped rest
  | cs =>
    if dropped ≠ 0 then (ofParts? negative significand dropped).map (·, cs)
    else if !negative then some (natural significand, cs)
    else if significand = 0 ∨ Nat.pow 2 63 < significand then
      some (float (-Float.ofNat significand), cs)
    else some (.negative significand, cs)

/-- Reads a number after its sign. A leading zero stands alone. -/
def readUnsigned? (negative : Bool) : List Char → Option (Number × List Char)
  | [] => none
  | c :: rest =>
    if c = '0' then
      if (rest.head?.map Char.isDigit).getD false then none else readRest? negative 0 0 rest
    else if c.isDigit then
      let (significand, _, rest) := takeDigits 0 (c :: rest)
      let (dropped, rest) := Numeral.spanDigits rest
      readRest? negative significand dropped.length rest
    else none

/-- Reads a number off the start of a text. -/
def read? : List Char → Option (Number × List Char)
  | '-' :: rest => readUnsigned? true rest
  | cs => readUnsigned? false cs

/-- Passes over digits, of which there must be one. -/
def skipDigits? (cs : List Char) : Option (List Char) :=
  let (digits, rest) := Numeral.spanDigits cs
  if digits = [] then none else some rest

/-- Passes over a number off the start of a text, whatever its size. -/
def skip? (cs : List Char) : Option (List Char) := do
  let cs := match cs with
    | '-' :: rest => rest
    | _ => cs
  let rest ← match cs with
    | '0' :: rest => if (rest.head?.map Char.isDigit).getD false then none else some rest
    | _ => skipDigits? cs
  let rest ← match rest with
    | '.' :: rest => skipDigits? rest
    | _ => some rest
  match rest with
  | 'e' :: rest | 'E' :: rest => skipDigits? (Numeral.spanSign rest).2
  | _ => some rest

end Number

end CdGraphics.Json
