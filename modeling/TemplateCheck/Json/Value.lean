import TemplateCheck.KeyMap.Basic

/-!
# JSON values

* `DecodeFault` — why a text in a data format was refused, shared by all formats;
* `Json` — a value of the data format: whole numbers of 64 bits are kept apart from floats;
* `Model` — the data that a template is rendered with: named values;
* `Json.ofFloat` — a float as a value; one that is not finite has no number text and becomes
  `null`.
-/

namespace TemplateCheck

/-! ### Faults -/

/-- Why a text could not be decoded. -/
inductive DecodeFault where
  /-- The text ended too early. -/
  | endOfText
  /-- A choice by name names none of the choices. -/
  | unknownVariant
  /-- A record names one of its fields twice. -/
  | duplicateField
  /-- A mapping has one key twice. -/
  | duplicateEntry
  /-- A value of one kind stands where another kind is due. -/
  | invalidType
  /-- A value of the right kind is out of place. -/
  | invalidValue
  /-- The text breaks the rules of its format. -/
  | malformed
deriving Repr, DecidableEq

/-- The wording of a fault. -/
def DecodeFault.message : DecodeFault → String
  | .endOfText => "eof"
  | .unknownVariant => "unknown variant"
  | .duplicateField => "duplicate field"
  | .duplicateEntry => "duplicate entry"
  | .invalidType => "invalid type"
  | .invalidValue => "invalid value"
  | .malformed => "syntax"

/-! ### Values -/

/-- A JSON value. The members of an object that was read stand in ascending key order. -/
inductive Json where
  | null
  | bool (b : Bool)
  | int (i : Int)
  | float (f : Float)
  | str (s : String)
  | arr (items : List Json)
  | obj (members : List (String × Json))
deriving Inhabited, Repr

/-- Data handed to a template when it is rendered. -/
abbrev Model := KeyMap Json

namespace Json

/-- A float as a value. -/
def ofFloat (f : Float) : Json :=
  if f.isFinite then .float f else .null

/-- A whole number as a value, if it fits in 64 bits, signed or not. -/
def ofInt? (i : Int) : Option Json :=
  if -(Nat.pow 2 63 : Int) ≤ i ∧ i < Nat.pow 2 64 then some (.int i) else none

/-- An object with the given members, inserted in order. -/
def ofMembers (members : List (String × Json)) : Json :=
  .obj (KeyMap.ofList members).entries

/-- The member of an object under a key. -/
def get? (key : String) : Json → Option Json
  | .obj members => members.lookup key
  | _ => none

end Json

end TemplateCheck
