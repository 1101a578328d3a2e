import CdGraphics.Text.Hex
import CdGraphics.Text.Printing

/-!
# Quoted text

Messages show a text between double quotes, with what would not print as itself escaped.
-/

namespace CdGraphics

/-- A character inside quotes. -/
def quotedChar (c : Char) : String :=
  if c = '"' then "\\\""
  else if c = '\\' then "\\\\"
  else if c = '\n' then "\\n"
  else if c = '\r' then "\\r"
  else if c = '\t' then "\\t"
  else if c.toNat = 0 then "\\0"
  else if printsAsItself c then String.singleton c
  else "\\u\x7b" ++ Hex.ofNat c.toNat ++ "\x7d"

/-- A text between double quotes. -/
def quotedText (s : String) : String := "\"" ++ String.join (s.toList.map quotedChar) ++ "\""

end CdGraphics
