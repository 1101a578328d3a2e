import CdGraphics.Json.ReadError

/-!
# The parts of a JSON text

Blanks, words, strings and numbers at the start of a text, and whole values that are passed over
unread.
-/

namespace CdGraphics.Json

/-- Drops the blanks at the start of a text. -/
def skipBlanks (cs : List Char) : List Char :=
  cs.dropWhile fun c => c == ' ' || c == '\n' || c == '\t' || c == '\r'

def skipWord (word : String) (cs : List Char) : Except ReadError (List Char) :=
  if word.toList.isPrefixOf cs then .ok (cs.drop word.length) else .error .malformed

/-- The value of four hexadecimal digits. -/
def hexValue? (a b c d : Char) : Option Nat := do
  return ((← Hex.value? a) * 16 + (← Hex.value? b)) * 256
    + (← Hex.value? c) * 16 + (← Hex.value? d)

/-- The character of a letter that stands for one after a backslash. -/
def letterEscape? (c : Char) : Option Char :=
  if c = '"' ∨ c = '\\' ∨ c = '/' then some c
  else if c = 'b' then some (Char.ofNat 8)
  else if c = 'f' then some (Char.ofNat 12)
  else if c = 'n' then some '\n'
  else if c = 'r' then some '\r'
  else if c = 't' then some '\t'
  else none

/-- The second half of a character written as two halves of sixteen bits. -/
def lowHalf? : List Char → Option (Nat × List Char)
  | '\\' :: 'u' :: a :: b :: c :: d :: rest => do
    let low ← hexValue? a b c d
    if 0xdc00 ≤ low ∧ low ≤ 0xdfff then some (low, rest) else none
  | _ => none

/-- The character that is escaped after a backslash. Halves of a character come in pairs. -/
def unescape? : List Char → Option (Char × List Char)
  | [] => none
  | 'u' :: a :: b :: c :: d :: rest => do
    let high ← hexValue? a b c d
    if 0xdc00 ≤ high ∧ high ≤ 0xdfff then none
    else if 0xd800 ≤ high ∧ high ≤ 0xdbff then
      let (low, rest) ← lowHalf? rest
      some (Char.ofNat (0x10000 + (high - 0xd800) * 0x400 + (low - 0xdc00)), rest)
    else some (Char.ofNat high, rest)
  | c :: rest => (letterEscape? c).map (·, rest)

theorem length_of_lowHalf? {cs rest : List Char} {n : Nat} (h : lowHalf? cs = some (n, rest)) :
    rest.length < cs.length := by
  unfold lowHalf? at h
  split at h
  · simp only [Option.bind_eq_bind, Option.bind_eq_some_iff] at h
    obtain ⟨low, -, h⟩ := h
    split at h
    · simp only [Option.some.injEq, Prod.mk.injEq] at h
      rw [← h.2]; simp only [List.length_cons]; omega
    · cases h
  · cases h

theorem length_of_unescape? {cs rest : List Char} {c : Char} (h : unescape? cs = some (c, rest)) :
    rest.length < cs.length := by
  unfold unescape? at h
  split at h
  · cases h
  · simp only [Option.bind_eq_bind, Option.bind_eq_some_iff] at h
    obtain ⟨high, -, h⟩ := h
    split at h
    · cases h
    · split at h
      · simp only [Option.bind_eq_some_iff, Prod.exists] at h
        obtain ⟨low, r, hl, h⟩ := h
        have := length_of_lowHalf? hl
        simp only [Option.some.injEq, Prod.mk.injEq] at h
        rw [← h.2]; simp only [List.length_cons]; omega
      · simp only [Option.some.injEq, Prod.mk.injEq] at h
        rw [← h.2]; simp only [List.length_cons]; omega
  · obtain ⟨d, -, h⟩ := Option.map_eq_some_iff.1 h
    rw [Prod.mk.injEq] at h
    rw [← h.2]
    exact Nat.lt_succ_self _

/-- Reads a string after its opening quote. -/
def readString : List Char → Except ReadError (List Char × List Char)
  | [] => .error .malformed
  | '"' :: rest => .ok ([], rest)
  | '\\' :: rest =>
    match _h : unescape? rest with
    | none => .error .malformed
    | some (c, rest) => do
      let (s, rest) ← readString rest
      return (c :: s, rest)
  | c :: rest =>
    if c.toNat < 32 then .error .malformed
    else do
      let (s, rest) ← readString rest
      return (c :: s, rest)
termination_by cs => cs.length
decreasing_by
  · have := length_of_unescape? _h
    simp only [List.length_cons]; omega
  · simp

def readNumber (cs : List Char) : Except ReadError (Number × List Char) :=
  match Number.read? cs with
  | some r => .ok r
  | none => .error .malformed

/-- Passes over a string after its opening quote; an escaped half of a character may stand alone. -/
def skipString : List Char → Except ReadError (List Char)
  | [] => .error .malformed
  | '"' :: rest => .ok rest
  | '\\' :: 'u' :: a :: b :: c :: d :: rest =>
    if (hexValue? a b c d).isSome then skipString rest else .error .malformed
  | '\\' :: c :: rest => if (letterEscape? c).isSome then skipString rest else .error .malformed
  | c :: rest => if c.toNat < 32 ∨ c = '\\' then .error .malformed else skipString rest

mutual

/-- Passes over a value. -/
def skipValueWithin : (depth : Nat) → List Char → Except ReadError (List Char)
  | 0, _ => .error .malformed
  | depth + 1, cs =>
    match skipBlanks cs with
    | '"' :: rest => skipString rest
    | '[' :: rest =>
      match skipBlanks rest with
      | ']' :: rest => .ok rest
      | rest => skipItems depth rest
    | '{' :: rest =>
      match skipBlanks rest with
      | '}' :: rest => .ok rest
      | rest => skipMembers depth rest
    | 'n' :: rest => skipWord "ull" rest
    | 't' :: rest => skipWord "rue" rest
    | 'f' :: rest => skipWord "alse" rest
    | cs =>
      match Number.skip? cs with
      | some rest => .ok rest
      | none => .error .malformed

/-- Passes over the items of a list from one on, and its end. -/
def skipItems : (depth : Nat) → List Char → Except ReadError (List Char)
  | 0, _ => .error .malformed
  | depth + 1, cs => do
    match skipBlanks (← skipValueWithin depth cs) with
    | ',' :: rest => skipItems depth rest
    | ']' :: rest => .ok rest
    | _ => .error .malformed

/-- Passes over the members of an object from one on, and its end. -/
def skipMembers : (depth : Nat) → List Char → Except ReadError (List Char)
  | 0, _ => .error .malformed
  | depth + 1, cs =>
    match skipBlanks cs with
    | '"' :: rest => do
      match skipBlanks (← skipString rest) with
      | ':' :: rest =>
        match skipBlanks (← skipValueWithin depth rest) with
        | ',' :: rest => skipMembers depth rest
        | '}' :: rest => .ok rest
        | _ => .error .malformed
      | _ => .error .malformed
    | _ => .error .malformed

end

/-- Passes over a value in a text of at most `size` characters. No value has more parts within parts
than twice its characters. -/
def skipValue (size : Nat) (cs : List Char) : Except ReadError (List Char) :=
  skipValueWithin (2 * size + 2) cs

/-- The error where a value is of another kind than was expected. -/
def wrongKind (expected : String) (cs : List Char) : ReadError :=
  let found : Except ReadError Found :=
    match cs with
    | '"' :: rest => (readString rest).map fun r => .text (String.ofList r.1)
    | '[' :: _ => .ok .sequence
    | '{' :: _ => .ok .map
    | 'n' :: rest => (skipWord "ull" rest).map fun _ => .null
    | 't' :: rest => (skipWord "rue" rest).map fun _ => .bool true
    | 'f' :: rest => (skipWord "alse" rest).map fun _ => .bool false
    | cs => (readNumber cs).map fun r => .number r.1
  match found with
  | .ok found => .invalidType found expected
  | .error e => e

end CdGraphics.Json
