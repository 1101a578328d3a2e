/-!
# Errors

Decoding and playback never fail. What can fail is what a host hands in: an opcode to register, a
slice to view as a packet, a settings document, a file.
-/

namespace CdGraphics

/-- A failure that a host is told of. -/
inductive Error where
  | validation (text : String)
  | settings (text : String)
  | io (text : String)
  | other (text : String)
deriving DecidableEq, Repr

/-- The text of an error, headed by its kind. -/
def Error.message : Error → String
  | .validation text => "validation error: " ++ text
  | .settings text => "settings error: " ++ text
  | .io text => "io error: " ++ text
  | .other text => text

end CdGraphics
