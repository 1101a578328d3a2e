import CdGraphics.Json.Scan

/-!
# Reading documents

A document is read as what it is expected to hold: numbers, one of some names, records. Errors are
found in the order of the text. A record may also be written as the list of its fields, and a name
as an object with that one member, whose value is null.
-/

namespace CdGraphics.Json

/-- Reads a value off the start of a text. -/
abbrev Reader (α : Type) := List Char → Except ReadError (α × List Char)

/-- A text that begins as a number does. -/
def startsNumber : List Char → Bool
  | c :: _ => c == '-' || c.isDigit
  | [] => false

def readFloat : Reader Float := fun cs => do
  let cs := skipBlanks cs
  if startsNumber cs then
    let (value, rest) ← readNumber cs
    return (value.toFloat, rest)
  else throw (wrongKind "f64" cs)

/-- Reads a whole number up to a greatest one. -/
def readNatural (kind : String) (greatest : Nat) : Reader Nat := fun cs => do
  let cs := skipBlanks cs
  if startsNumber cs then
    match ← readNumber cs with
    | (.natural value, rest) =>
      if value ≤ greatest then return (value, rest)
      else throw (.invalidValue (.number (.natural value)) kind)
    | (.negative size, _) => throw (.invalidValue (.number (.negative size)) kind)
    | (.float value, _) => throw (.invalidType (.number (.float value)) kind)
  else throw (wrongKind kind cs)

/-- Passes over the colon after a name. -/
def skipColon (cs : List Char) : Except ReadError (List Char) :=
  match skipBlanks cs with
  | ':' :: rest => .ok rest
  | _ => .error .malformed

def skipNull (cs : List Char) : Except ReadError (List Char) :=
  match skipBlanks cs with
  | 'n' :: rest => skipWord "ull" rest
  | cs => .error (wrongKind "unit" cs)

variable {α σ : Type}

/-- What a name stands for. -/
def lookUp (choices : List (String × α)) (name : List Char) : Except ReadError α :=
  match choices.find? fun c => c.1 == String.ofList name with
  | some c => .ok c.2
  | none => .error (.unknownVariant (String.ofList name) (choices.map Prod.fst))

/-- Reads one of some names. -/
def readChoice (choices : List (String × α)) : Reader α := fun cs => do
  match skipBlanks cs with
  | '"' :: rest =>
    let (name, rest) ← readString rest
    return (← lookUp choices name, rest)
  | '{' :: rest =>
    match skipBlanks rest with
    | '"' :: rest =>
      let (name, rest) ← readString rest
      let value ← lookUp choices name
      match skipBlanks (← skipNull (← skipColon rest)) with
      | '}' :: rest => return (value, rest)
      | _ => throw .malformed
    | _ => throw .malformed
  | _ => throw .malformed

/-- A field of a record that is being read into `σ`. -/
structure Field (σ : Type) where
  name : String
  isSet : σ → Bool
  read : σ → Reader σ

/-- How a record is read: from nothing, field by field, to what the fields make. -/
structure Record (σ α : Type) where
  expected : String
  fields : List (Field σ)
  /-- Members of other names are passed over. -/
  ignoresOthers : Bool
  /-- A list must have all fields. -/
  needsAll : Bool
  blank : σ
  finish : σ → Except ReadError α

namespace Record

/-- Reads a member after its opening quote, in a text of at most `size` characters. -/
def readMember (r : Record σ α) (size : Nat) (s : σ) : Reader σ := fun cs => do
  let (name, rest) ← readString cs
  match r.fields.find? fun f => f.name == String.ofList name with
  | some field =>
    if field.isSet s then throw (.duplicateField field.name)
    else field.read s (← skipColon rest)
  | none =>
    if r.ignoresOthers then return (s, ← skipValue size (← skipColon rest))
    else throw (.unknownField (String.ofList name) (r.fields.map Field.name))

/-- Reads members up to the end of an object, in a text of fewer than `count` characters. -/
def readMembers (r : Record σ α) : (count : Nat) → (first : Bool) → σ → Reader σ
  | 0, _, _, _ => .error .malformed
  | count + 1, first, s, cs =>
    match skipBlanks cs, first with
    | '}' :: rest, _ => .ok (s, rest)
    | '"' :: rest, true => do
      let (s, rest) ← r.readMember count s rest
      r.readMembers count false s rest
    | ',' :: rest, false =>
      match skipBlanks rest with
      | '"' :: rest => do
        let (s, rest) ← r.readMember count s rest
        r.readMembers count false s rest
      | _ => .error .malformed
    | _, _ => .error .malformed

/-- Reads the fields of a list from the one of number `index` on, and its end. -/
def readItems (r : Record σ α) : List (Field σ) → (index : Nat) → σ → Reader σ
  | [], _, s, cs =>
    match skipBlanks cs with
    | ']' :: rest => .ok (s, rest)
    | _ => .error .malformed
  | field :: fields, index, s, cs =>
    match skipBlanks cs, index with
    | ']' :: rest, _ =>
      if r.needsAll then
        .error (.invalidLength index (r.expected ++ s!" with {r.fields.length} elements"))
      else r.readItems fields index s (']' :: rest)
    | cs, 0 => do
      let (s, rest) ← field.read s cs
      r.readItems fields 1 s rest
    | ',' :: rest, index => do
      let (s, rest) ← field.read s rest
      r.readItems fields (index + 1) s rest
    | _, _ => .error .malformed

def read (r : Record σ α) : Reader α := fun cs => do
  match skipBlanks cs with
  | '{' :: rest =>
    let (s, rest) ← r.readMembers (rest.length + 1) true r.blank rest
    return (← r.finish s, rest)
  | '[' :: rest =>
    let (s, rest) ← r.readItems r.fields 0 r.blank rest
    return (← r.finish s, rest)
  | cs => throw (wrongKind r.expected cs)

end Record

/-- Reads a document that holds one value. -/
def readDocument (read : Reader α) (text : String) : Except ReadError α := do
  let (value, rest) ← read text.toList
  if skipBlanks rest = [] then return value else throw .malformed

end CdGraphics.Json
