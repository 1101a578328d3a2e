import CdGraphics.Command.Report

/-!
# Reports read back

A report's JSON holds all of the report. Its members are read by their names and its instructions
by the name of their opcode, whatever else stands beside them, and what is read from a report's
JSON is that report (`Report.ofJson?_toJson`).
-/

namespace CdGraphics

namespace Json

variable {α β : Type}

def natural? : Json → Option Nat
  | .number value => some value
  | _ => none

def byte? (j : Json) : Option UInt8 := j.natural?.map UInt8.ofNat

/-- A number that may be absent. -/
def index? : Json → Option (Option Nat)
  | .null => some none
  | .number value => some (some value)
  | _ => none

def text? : Json → Option String
  | .text value => some value
  | _ => none

/-- The items of a list, each read in the same way. -/
def listOf? (read? : Json → Option α) : Json → Option (List α)
  | .list items => items.mapM read?
  | _ => none

/-- The items of a list of one length. -/
def vectorOf? {n : Nat} (read? : Json → Option α) (j : Json) : Option (Vector α n) := do
  let items ← j.listOf? read?
  if h : items.toArray.size = n then some ⟨items.toArray, h⟩ else none

def count? (m : String × Json) : Option (String × Nat) := m.2.natural?.map (m.1, ·)

/-- An object's members as counts by name. -/
def counts? : Json → Option (List (String × Nat))
  | .object members => members.mapM count?
  | _ => none

/-- The first member of a name. -/
def member? (name : String) (read? : Json → Option α) : Json → Option α
  | .object members => (members.find? fun m => m.1 == name).bind fun m => read? m.2
  | _ => none

@[simp]
theorem byte?_byte (b : UInt8) : (byte b).byte? = some b := by
  simp [byte?, byte, natural?]

theorem mapM_map {write : α → β} {read? : β → Option α} (h : ∀ a, read? (write a) = some a) :
    ∀ l : List α, (l.map write).mapM read? = some l
  | [] => rfl
  | a :: rest => by
    rw [List.map_cons, List.mapM_cons, h, mapM_map h rest]
    rfl

theorem listOf?_list {write : α → Json} {read? : Json → Option α}
    (h : ∀ a, read? (write a) = some a) (l : List α) :
    (Json.list (l.map write)).listOf? read? = some l := mapM_map h l

theorem vectorOf?_list {n : Nat} {write : α → Json} {read? : Json → Option α}
    (h : ∀ a, read? (write a) = some a) (v : Vector α n) :
    (Json.list (v.toList.map write)).vectorOf? read? = some v := by
  have hitems : v.toList.toArray = v.toArray := Array.toArray_toList
  have hsize : v.toList.toArray.size = n := by rw [hitems, v.size_toArray]
  rw [vectorOf?, listOf?_list h]
  exact (dif_pos hsize).trans (congrArg some (Vector.toArray_inj.1 hitems))

theorem counts?_object (l : List (String × Nat)) :
    (Json.object (l.map fun (name, count) => (name, .number count))).counts? = some l := by
  have hcount : ∀ c : String × Nat, count? (c.1, .number c.2) = some c := fun _ => rfl
  exact mapM_map hcount l

variable {name other : String} {read? : Json → Option α} {value : Json}
  {rest : List (String × Json)}

@[simp]
theorem member?_cons_self : (object ((name, value) :: rest)).member? name read? = read? value := by
  simp [member?]

@[simp]
theorem member?_cons_of_ne (h : other ≠ name) :
    (object ((other, value) :: rest)).member? name read? = (object rest).member? name read? := by
  simp [member?, h]

end Json

open Json

namespace Opcode

def ofTag? (tag : String) : Option Opcode := all.find? fun op => op.tag == tag

@[simp]
theorem ofTag?_tag (op : Opcode) : ofTag? op.tag = some op := by cases op <;> decide

end Opcode

namespace HorizontalMove

def ofTag? (tag : String) : Option HorizontalMove :=
  [none, right, left].find? fun m => m.tag == tag

@[simp]
theorem ofTag?_tag (m : HorizontalMove) : ofTag? m.tag = some m := by cases m <;> decide

end HorizontalMove

namespace VerticalMove

def ofTag? (tag : String) : Option VerticalMove := [none, down, up].find? fun m => m.tag == tag

@[simp]
theorem ofTag?_tag (m : VerticalMove) : ofTag? m.tag = some m := by cases m <;> decide

end VerticalMove

namespace Nibbles

def ofJson? (j : Json) : Option Nibbles :=
  (vectorOf? byte? j : Option (Vector UInt8 3)).map fun v => ⟨v[0], v[1], v[2]⟩

theorem ofJson?_toJson (c : Nibbles) : ofJson? c.toJson = some c :=
  congrArg (Option.map fun v : Vector UInt8 3 => Nibbles.mk v[0] v[1] v[2])
    (vectorOf?_list byte?_byte #v[c.red, c.green, c.blue])

end Nibbles

namespace Instruction

def readTile? (j : Json) : Option Tile := do
  let colors : Vector UInt8 2 ← j.member? "colors" (vectorOf? byte?)
  return ⟨colors[0], colors[1], ← j.member? "row" byte?, ← j.member? "column" byte?,
    ← j.member? "bitmap" (vectorOf? byte?)⟩

def readScroll? (j : Json) : Option Scroll := do
  let horizontal ← HorizontalMove.ofTag? (← j.member? "h_scroll" text?)
  let vertical ← VerticalMove.ofTag? (← j.member? "v_scroll" text?)
  return ⟨← j.member? "color" byte?, horizontal, ← j.member? "h_offset" byte?, vertical,
    ← j.member? "v_offset" byte?⟩

/-- The instruction that an object holds, its fields by the opcode that it names. -/
def ofJson? (j : Json) : Option Instruction := do
  match ← Opcode.ofTag? (← j.member? "op" text?) with
  | .noop => return .noop
  | .memoryPreset => return .memoryPreset (← j.member? "color" byte?) (← j.member? "repeat" byte?)
  | .borderPreset => return .borderPreset (← j.member? "color" byte?)
  | .tileBlock => return .tile .replace (← readTile? j)
  | .tileBlockXor => return .tile .xor (← readTile? j)
  | .scrollPreset => return .scroll .preset (← readScroll? j)
  | .scrollCopy => return .scroll .copy (← readScroll? j)
  | .setKeyColor => return .setKeyColor (← j.member? "color" byte?)
  | .loadColorsLow => return .loadColors .low (← j.member? "colors" (vectorOf? Nibbles.ofJson?))
  | .loadColorsHigh => return .loadColors .high (← j.member? "colors" (vectorOf? Nibbles.ofJson?))

theorem readTile?_toJson (mode : TileMode) (t : Tile) :
    readTile? (tile mode t).toJson = some t := by
  have hcolors := vectorOf?_list byte?_byte #v[t.clearColor, t.setColor]
  have hbitmap := vectorOf?_list byte?_byte t.bitmap
  simp only [Vector.toList_mk, List.map_cons, List.map_nil] at hcolors
  simp [readTile?, toJson, members, hcolors, hbitmap]

theorem readScroll?_toJson (mode : ScrollMode) (s : Scroll) :
    readScroll? (scroll mode s).toJson = some s := by
  simp [readScroll?, toJson, members, text?]

theorem ofJson?_toJson (i : Instruction) : ofJson? i.toJson = some i := by
  have hop : i.toJson.member? "op" text? = some i.opcode.tag := member?_cons_self
  rw [ofJson?, hop]
  cases i with
  | noop => rfl
  | memoryPreset color repetition => simp [opcode, toJson, members]
  | borderPreset color => simp [opcode, toJson, members]
  | tile mode t => cases mode <;> simp [opcode, readTile?_toJson]
  | scroll mode s => cases mode <;> simp [opcode, readScroll?_toJson]
  | setKeyColor color => simp [opcode, toJson, members]
  | loadColors half colors =>
    have hcolors := vectorOf?_list Nibbles.ofJson?_toJson colors
    cases half <;> simp [opcode, toJson, members, hcolors]

end Instruction

namespace Diagnostic

def ofJson? (j : Json) : Option Diagnostic := do
  match ← j.member? "kind" text? with
  | "unknown_opcode" =>
    return .unknownOpcode (← j.member? "packet" index?) (← j.member? "opcode" byte?)
  | "out_of_bounds_draw" =>
    return .outOfBounds (← j.member? "row" byte?) (← j.member? "column" byte?)
  | "truncated_stream" => return .truncated (← j.member? "trailing_bytes" natural?)
  | _ => none

theorem ofJson?_toJson (d : Diagnostic) : ofJson? d.toJson = some d := by
  cases d with
  | unknownOpcode packet opcode =>
    cases packet <;> simp [ofJson?, toJson, text?, index?]
  | outOfBounds row column => simp [ofJson?, toJson, text?]
  | truncated trailing => simp [ofJson?, toJson, text?, natural?]

end Diagnostic

namespace Report

def readRow? (j : Json) : Option ReportRow := do
  return ⟨← j.member? "index" natural?, ← j.member? "hex" text?,
    ← j.member? "instruction" Instruction.ofJson?⟩

def ofJson? (j : Json) : Option Report := do
  return ⟨← j.member? "packets" natural?, ← j.member? "trailing_bytes" natural?,
    ← j.member? "opcodes" counts?, ← j.member? "instructions" (listOf? readRow?),
    ← j.member? "diagnostics" (listOf? Diagnostic.ofJson?)⟩

theorem readRow?_rowJson (r : ReportRow) : readRow? (rowJson r) = some r := by
  simp [readRow?, rowJson, natural?, text?, Instruction.ofJson?_toJson]

/-- What is read from a report's JSON is the report. -/
theorem ofJson?_toJson (r : Report) : ofJson? r.toJson = some r := by
  simp [ofJson?, toJson, natural?, counts?_object, listOf?_list readRow?_rowJson,
    listOf?_list Diagnostic.ofJson?_toJson]

end Report

end CdGraphics
