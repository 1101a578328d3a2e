import CdGraphics.Json.Number
import CdGraphics.Number.FloatText
import CdGraphics.Text.Quoted

/-!
# What can be wrong with a document

A document that is JSON can still have a value of the wrong kind, out of range or missing, or a
name that nobody asked for. All that is not JSON is one error without details.
-/

namespace CdGraphics.Json

/-- A value that stands where another was expected. -/
inductive Found where
  | null
  | bool (value : Bool)
  | number (value : Number)
  | text (value : String)
  | sequence
  | map

/-- The kind of a value, and the value if it is short. -/
def Found.describe : Found → String
  | .null => "null"
  | .bool value => s!"boolean `{value}`"
  | .number (.natural value) => s!"integer `{value}`"
  | .number (.negative size) => s!"integer `-{size}`"
  | .number (.float value) => "floating point `" ++ FloatStyle.json.text value ++ "`"
  | .text value => "string " ++ quotedText value
  | .sequence => "sequence"
  | .map => "map"

/-- Why a document was refused. -/
inductive ReadError where
  | malformed
  | invalidType (found : Found) (expected : String)
  | invalidValue (found : Found) (expected : String)
  | invalidLength (length : Nat) (expected : String)
  | missingField (name : String)
  | duplicateField (name : String)
  | unknownField (name : String) (expected : List String)
  | unknownVariant (name : String) (expected : List String)

/-- Names to choose from. -/
def choicesText : List String → String
  | [] => "nothing"
  | [a] => "`" ++ a ++ "`"
  | [a, b] => "`" ++ a ++ "` or `" ++ b ++ "`"
  | names => "one of " ++ ", ".intercalate (names.map fun name => "`" ++ name ++ "`")

def ReadError.message : ReadError → String
  | .malformed => "syntax"
  | .invalidType found expected => "invalid type: " ++ found.describe ++ ", expected " ++ expected
  | .invalidValue found expected => "invalid value: " ++ found.describe ++ ", expected " ++ expected
  | .invalidLength length expected => s!"invalid length {length}, expected " ++ expected
  | .missingField name => "missing field `" ++ name ++ "`"
  | .duplicateField name => "duplicate field `" ++ name ++ "`"
  | .unknownField name expected =>
    "unknown field `" ++ name ++ "`, expected " ++ choicesText expected
  | .unknownVariant name expected =>
    "unknown variant `" ++ name ++ "`, expected " ++ choicesText expected

end CdGraphics.Json
