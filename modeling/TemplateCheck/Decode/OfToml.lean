import TemplateCheck.Decode.Format
import TemplateCheck.Toml.Reader

/-!
# TOML as a data format

Values of TOML as nodes to decode settings from.

* `Value.json` — any value as one of JSON; a moment becomes a record of its text;
* `Format.ofToml` — how values are taken;
* `Toml.decode` — a whole text decoded.

The whole text is read first, so a text that breaks the rules anywhere is refused for that. A record
may also be given as the list of its fields in order.
-/

namespace TemplateCheck.Toml.Value

/-- The name under which the text of a moment stands. -/
def momentKey : String := "$__toml_private_datetime"

/-- A whole number that no reader of values takes is a fault of its own. -/
def isHuge (i : Int) : Bool :=
  i < -(Nat.pow 2 127) || Nat.pow 2 128 ≤ i

/-- The fault of a value that stands where another kind of value is due. -/
def mismatch : Value → DecodeFault
  | .int i => if isHuge i then .malformed else .invalidType
  | .float none => .malformed
  | _ => .invalidType

mutual

/-- Any value. -/
def json : Value → Decoded Json
  | .text s => .ok (.str s)
  | .int i =>
    match Json.ofInt? i with
    | some j => .ok j
    | none => .error .malformed
  | .float (some f) => .ok (Json.ofFloat f)
  | .float none => .error .malformed
  | .bool b => .ok (.bool b)
  | .moment m => .ok (.obj [(momentKey, .str m.text)])
  | .array items => (allJson items).map .arr
  | .table entries => (membersJson entries).map .obj

/-- Any values. -/
def allJson : List Value → Decoded (List Json)
  | [] => .ok []
  | v :: vs => do return (← json v) :: (← allJson vs)

/-- The values of entries. -/
def membersJson : List (String × Value) → Decoded (List (String × Json))
  | [] => .ok []
  | (key, v) :: es => do return (key, ← json v) :: (← membersJson es)

end

/-- The entries of a value that is a table or a moment. -/
def entries? : Value → Option (List (String × Value))
  | .table entries => some entries
  | .moment m => some [(momentKey, .text m.text)]
  | _ => none

/-- The name of a choice: a text, or the one key of a table under which nothing stands. -/
def variant : Value → Decoded (String × Decoded Unit)
  | .text s => .ok (s, .ok ())
  | .table [(name, .array [])] => .ok (name, .ok ())
  | .table [(name, .table [])] => .ok (name, .ok ())
  | .table [(name, _)] => .ok (name, .error .malformed)
  | _ => .error .malformed

mutual

/-- Is there a number in a value that cannot be taken? -/
def hasFault : Value → Bool
  | .int i => isHuge i
  | .float none => true
  | .array items => anyHasFault items
  | .table entries => anyEntryHasFault entries
  | _ => false

/-- Is there such a number in some values? -/
def anyHasFault : List Value → Bool
  | [] => false
  | v :: vs => hasFault v || anyHasFault vs

/-- Is there such a number in some entries? -/
def anyEntryHasFault : List (String × Value) → Bool
  | [] => false
  | (_, v) :: es => hasFault v || anyEntryHasFault es

end

end TemplateCheck.Toml.Value

namespace TemplateCheck

open Toml in
/-- Values of TOML as a format. -/
def Format.ofToml : Format Value where
  string
    | .text s => .ok s
    | v => .error v.mismatch
  bool
    | .bool b => .ok b
    | v => .error v.mismatch
  isPresent _ := .ok true
  items
    | .array items => .ok items
    | v => .error v.mismatch
  fields names v :=
    match v.entries?, v with
    | some entries, _ => .ok (entries.map fun (key, v) => (.ok key, v))
    | none, .array items => .ok ((names.zip items).map fun (key, v) => (.ok key, v))
    | none, v => .error v.mismatch
  variant := Value.variant
  members v :=
    match v.entries? with
    | some entries => entries.mapM fun (key, v) => do return (key, ← v.json)
    | none => .error v.mismatch
  skip v := if v.hasFault then .error .malformed else .ok ()

/-- A whole text decoded. -/
def Toml.decode {α : Type} (shape : Toml.Value → Decoded α) (text : String) : Decoded α :=
  match Toml.read? text with
  | some v => shape v
  | none => .error .malformed

end TemplateCheck
