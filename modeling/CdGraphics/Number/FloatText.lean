import CdGraphics.Number.Shortest

/-!
# Floating-point numbers as text

A finite number is written with the fewest digits that read back, positionally or with an exponent
as a `FloatStyle` says, or with a fixed number of places, where a half goes to the even neighbour.
-/

namespace CdGraphics

/-- How a style writes a number: positionally where the power of ten of its first digit lies
between two bounds, else with an exponent, whose sign may be spelled out. Of two texts that are as
short and as near a tie rule takes one. -/
structure FloatStyle where
  lowest : Int
  highest : Int
  plus : Bool
  tie : TieRule
deriving DecidableEq, Repr

namespace FloatStyle

/-- The style of log fields and debugging texts. -/
def log : FloatStyle := ⟨-4, 15, false, .up⟩

/-- The style of numbers quoted in messages about JSON. -/
def json : FloatStyle := ⟨-5, 15, true, .toEven⟩

def zeros (count : Nat) : String := String.ofList (List.replicate count '0')

/-- Digits with a point after the first `places` of them, and at least one digit to both sides. -/
def positional (digits : List Char) (places : Int) : String :=
  if places ≤ 0 then "0." ++ zeros (-places).toNat ++ String.ofList digits
  else
    let whole := digits.take places.toNat
    let rest := digits.drop places.toNat
    String.ofList whole ++ zeros (places.toNat - whole.length) ++ "."
      ++ (if rest.isEmpty then "0" else String.ofList rest)

/-- Digits with a point after the first, if there are more, and an exponent. -/
def scientific (s : FloatStyle) (digits : List Char) (exponent : Int) : String :=
  let rest := digits.drop 1
  String.ofList (digits.take 1) ++ (if rest.isEmpty then "" else "." ++ String.ofList rest)
    ++ "e" ++ (if exponent < 0 then "-" else if s.plus then "+" else "")
    ++ toString exponent.natAbs

def decimalText (s : FloatStyle) (d : Decimal) : String :=
  let digits := (toString d.digits).toList
  let exponent := d.exponent + digits.length - 1
  if s.lowest ≤ exponent ∧ exponent ≤ s.highest then positional digits (exponent + 1)
  else s.scientific digits exponent

def text (s : FloatStyle) (x : Float) : String :=
  match Binary64.ofFloat x with
  | .nan => "NaN"
  | .infinity negative => if negative then "-inf" else "inf"
  | .finite negative mantissa exponent =>
    (if negative then "-" else "")
      ++ if mantissa = 0 then "0.0" else s.decimalText (shortest s.tie mantissa exponent)

end FloatStyle

/-- The whole number nearest to a quotient, an even one on a tie. -/
def roundQuotient (numerator denominator : Nat) : Nat :=
  let quotient := numerator / denominator
  let rest := numerator % denominator
  if 2 * rest < denominator ∨ (2 * rest = denominator ∧ quotient % 2 = 0) then quotient
  else quotient + 1

/-- A number of hundredths with two places. -/
def hundredthsText (n : Nat) : String :=
  let places := (toString (n % 100)).toList
  toString (n / 100) ++ "." ++ FloatStyle.zeros (2 - places.length) ++ String.ofList places

/-- The text of a number with two places. -/
def twoPlaces (x : Float) : String :=
  match Binary64.ofFloat x with
  | .nan => "NaN"
  | .infinity negative => if negative then "-inf" else "inf"
  | .finite negative mantissa exponent =>
    (if negative then "-" else "")
      ++ hundredthsText
        (roundQuotient (100 * mantissa * Nat.pow 2 exponent.toNat)
          (Nat.pow 2 (-exponent).toNat))

end CdGraphics
