import TemplateCheck.Decode.Format

/-!
# Values as a data format

JSON values as nodes to decode settings from. A record may also be given as the list of its fields
in order.
-/

namespace TemplateCheck.Format

/-- The items of a list as the fields of a record. What stands behind the last field is a fault. -/
def positional (names : List String) (items : List Json) : List (Decoded String × Json) :=
  let fields := (names.zip items).map fun (name, j) => (.ok name, j)
  if items.length ≤ names.length then fields else fields ++ [(.error .malformed, .null)]

/-- Values as a format. -/
def ofJson : Format Json where
  string
    | .str s => .ok s
    | _ => .error .invalidType
  bool
    | .bool b => .ok b
    | _ => .error .invalidType
  isPresent
    | .null => .ok false
    | _ => .ok true
  items
    | .arr items => .ok items
    | _ => .error .invalidType
  fields names
    | .obj members => .ok (members.map fun (key, j) => (.ok key, j))
    | .arr items => .ok (positional names items)
    | _ => .error .invalidType
  variant
    | .str s => .ok (s, .ok ())
    | .obj [(name, .null)] => .ok (name, .ok ())
    | .obj [(name, _)] => .ok (name, .error .invalidType)
    | .obj _ => .error .invalidValue
    | _ => .error .invalidType
  members
    | .obj members => .ok members
    | _ => .error .invalidType
  skip _ := .ok ()

end TemplateCheck.Format
