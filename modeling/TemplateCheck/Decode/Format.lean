import TemplateCheck.Json.Value

/-!
# Decoding settings

Settings are read from several data formats. A format says how its nodes are taken as texts, lists,
records and so on; what the settings are made of is then decoded in the same way from all of them.

* `Format` — how the nodes of a format are taken;
* `Format.list`, `Format.optional`, `Format.choice`, `Format.record` — decoding of the shapes that
  settings have.

A node is decoded from its front to its back, so that of two faults the first one is told.
-/

namespace TemplateCheck

/-- What decoding yields. -/
abbrev Decoded := Except DecodeFault

/-- How the nodes of a data format are taken. -/
structure Format (ν : Type) where
  string : ν → Decoded String
  bool : ν → Decoded Bool
  /-- Is there anything in a node? -/
  isPresent : ν → Decoded Bool
  items : ν → Decoded (List ν)
  /-- The fields of a record that may have the given ones; a name may be a fault of its own. -/
  fields : List String → ν → Decoded (List (Decoded String × ν))
  /-- The name of a choice, and whether there is nothing else in the node. -/
  variant : ν → Decoded (String × Decoded Unit)
  /-- The members of a mapping of any values. -/
  members : ν → Decoded (List (String × Json))
  /-- A node that nobody wants. -/
  skip : ν → Decoded Unit

namespace Format

variable {ν α : Type}

/-- A list of nodes of one shape. -/
def list (f : Format ν) (item : ν → Decoded α) (n : ν) : Decoded (List α) := do
  (← f.items n).mapM item

/-- A node of some shape, or nothing. -/
def optional (f : Format ν) (some_ : ν → Decoded α) (n : ν) : Decoded (Option α) := do
  if ← f.isPresent n then return some (← some_ n) else return none

/-- One of several choices by name. -/
def choice (f : Format ν) (ofName? : String → Option α) (n : ν) : Decoded α := do
  let (name, rest) ← f.variant n
  match ofName? name with
  | none => throw .unknownVariant
  | some a =>
    rest
    return a

/-- A record: each field changes what is decoded so far. There may be no field twice, and fields
that are not known are passed over. -/
def record (f : Format ν) (known : List (String × (ν → α → Decoded α))) (start : α) (n : ν) :
    Decoded α := do
  let fields ← f.fields (known.map (·.1)) n
  let (_, a) ← fields.foldlM (fun (seen, a) (key, value) => do
    let name ← key
    match known.lookup name with
    | none =>
      f.skip value
      return (seen, a)
    | some set =>
      if seen.contains name then throw .duplicateField
      else return (name :: seen, ← set value a)) (([] : List String), start)
  return a

end Format

end TemplateCheck
