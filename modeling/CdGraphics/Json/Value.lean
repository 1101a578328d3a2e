import CdGraphics.Text.Hex

/-!
# JSON values

The values that reports are made of, and their text: members and items stand on lines of their
own, two blanks further in than what holds them, and an object keeps its members in order.
-/

namespace CdGraphics

/-- A JSON value with whole numbers. -/
inductive Json where
  | null
  | bool (value : Bool)
  | number (value : Nat)
  | text (value : String)
  | list (items : List Json)
  | object (members : List (String × Json))

namespace Json

def byte (b : UInt8) : Json := .number b.toNat

/-- A character inside a JSON string. -/
def escapeChar (c : Char) : String :=
  if c = '"' then "\\\""
  else if c = '\\' then "\\\\"
  else if c = '\n' then "\\n"
  else if c = '\r' then "\\r"
  else if c = '\t' then "\\t"
  else if c = Char.ofNat 8 then "\\b"
  else if c = Char.ofNat 12 then "\\f"
  else if c.toNat < 32 then "\\u00" ++ Hex.text [UInt8.ofNat c.toNat]
  else String.singleton c

/-- A JSON string. -/
def quoted (s : String) : String :=
  "\"" ++ String.join (s.toList.map escapeChar) ++ "\""

/-- The end of a line and the blanks before the next. -/
def newline (depth : Nat) : String := "\n" ++ String.ofList (List.replicate (2 * depth) ' ')

mutual

/-- The text of a value that stands `depth` levels deep. -/
def prettyAt (depth : Nat) : Json → String
  | .null => "null"
  | .bool true => "true"
  | .bool false => "false"
  | .number value => toString value
  | .text value => quoted value
  | .list [] => "[]"
  | .list (item :: rest) =>
    "[" ++ newline (depth + 1) ++ prettyAt (depth + 1) item
      ++ prettyItems (depth + 1) rest ++ newline depth ++ "]"
  | .object [] => "\x7b\x7d"
  | .object ((name, value) :: rest) =>
    "\x7b" ++ newline (depth + 1) ++ quoted name ++ ": " ++ prettyAt (depth + 1) value
      ++ prettyMembers (depth + 1) rest ++ newline depth ++ "\x7d"

/-- The items of a list after its first. -/
def prettyItems (depth : Nat) : List Json → String
  | [] => ""
  | item :: rest => "," ++ newline depth ++ prettyAt depth item ++ prettyItems depth rest

/-- The members of an object after its first. -/
def prettyMembers (depth : Nat) : List (String × Json) → String
  | [] => ""
  | (name, value) :: rest =>
    "," ++ newline depth ++ quoted name ++ ": " ++ prettyAt depth value
      ++ prettyMembers depth rest

end

/-- The text of a value on lines of its own. -/
def pretty (value : Json) : String := prettyAt 0 value

end Json

end CdGraphics
