/-!
# Hexadecimal text

Bytes are written as two lower-case digits each, and read back from either case
(`decode_encode`).
-/

namespace CdGraphics.Hex

/-- The digit of a value below 16. -/
def digit (n : Nat) : Char :=
  if n < 10 then Char.ofNat (48 + n) else Char.ofNat (87 + n)

def value? (c : Char) : Option Nat :=
  if '0' ≤ c ∧ c ≤ '9' then some (c.toNat - 48)
  else if 'a' ≤ c ∧ c ≤ 'f' then some (c.toNat - 87)
  else if 'A' ≤ c ∧ c ≤ 'F' then some (c.toNat - 55)
  else none

theorem value?_digit : ∀ n < 16, value? (digit n) = some n := by decide

/-- Two digits a byte, the high one first. -/
def encode : List UInt8 → List Char
  | [] => []
  | b :: rest => digit (b.toNat / 16) :: digit (b.toNat % 16) :: encode rest

/-- The bytes of a text with an even number of digits. -/
def decode : List Char → Option (List UInt8)
  | [] => some []
  | [_] => none
  | high :: low :: rest => do
    let h ← value? high
    let l ← value? low
    let bytes ← decode rest
    return UInt8.ofNat (16 * h + l) :: bytes

@[simp]
theorem length_encode (bytes : List UInt8) : (encode bytes).length = 2 * bytes.length := by
  induction bytes with
  | nil => rfl
  | cons b rest ih => simp only [encode, List.length_cons, ih]; omega

@[simp]
theorem encode_append (a b : List UInt8) : encode (a ++ b) = encode a ++ encode b := by
  induction a with
  | nil => rfl
  | cons c rest ih => simp [encode, ih]

/-- What is written reads back. -/
theorem decode_encode (bytes : List UInt8) : decode (encode bytes) = some bytes := by
  induction bytes with
  | nil => rfl
  | cons b rest ih =>
    have hb := b.toNat_lt
    have h1 := value?_digit (b.toNat / 16) (by omega)
    have h2 := value?_digit (b.toNat % 16) (by omega)
    have h3 : 16 * (b.toNat / 16) + b.toNat % 16 = b.toNat := by omega
    simp only [encode, decode, h1, h2, ih, Option.bind_eq_bind, Option.bind_some, h3,
      UInt8.ofNat_toNat]
    rfl

/-- The digits of a number, no more than it needs. -/
def ofNat (n : Nat) : String := String.ofList (Nat.toDigits 16 n)

def text (bytes : List UInt8) : String := String.ofList (encode bytes)

end CdGraphics.Hex
