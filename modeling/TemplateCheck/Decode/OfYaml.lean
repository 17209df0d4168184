import TemplateCheck.Decode.Format
import TemplateCheck.Yaml.Node
import TemplateCheck.Yaml.Scalar.Value

/-!
# YAML as a data format

Trees of YAML as nodes to decode settings from.

* `Spot` — a node of a document;
* `Spot.json` — any node as a value;
* `Format.ofYaml` — how nodes are taken;
* `Yaml.decode` — a whole text decoded.

A text is decoded up to where it breaks the rules, so a fault of what it says in front of that
comes first. A tag of the document's own means something only where a choice or any value is
decoded.
-/

namespace TemplateCheck.Yaml

/-- A node of a document. -/
structure Spot where
  node : Node
  /-- The nodes with anchors. -/
  anchors : List (Nat × Node)
  /-- How many containers may be opened from here on. -/
  depth : Nat

namespace Spot

/-- The node, or the one that it stands for. -/
def opened (s : Spot) : Node := s.node.follow s.anchors

/-- A node in a container. -/
def inner (s : Spot) (n : Node) : Spot := { s with node := n, depth := s.depth - 1 }

/-- The keys and values of a mapping. -/
def pairs : List Node → List (Node × Node)
  | key :: value :: ns => (key, value) :: pairs ns
  | [key] => [(key, .broken)]
  | [] => []

/-- Is a tag one of the document's own? -/
def isOwnTag (tag : Option String) : Bool :=
  tag.any (·.startsWith "!")

/-- The fault of a scalar that stands where another kind of value is due. -/
def scalarFault (tag : Option String) (style : Style) (text : String) : DecodeFault :=
  match Scalar.ofTagged tag style text with
  | .error fault => fault
  | .ok _ => .invalidType

/-- The fault of a node that stands where another kind of value is due. -/
def mismatch : Node → DecodeFault
  | .scalar _ tag style text => scalarFault tag style text
  | .list .. | .map .. => .invalidType
  | _ => .malformed

/-- Is there nothing in a node, not even a word for that? -/
def isBlankNode : Node → Bool
  | .void => true
  | .scalar _ _ style text => style = .plain && text.isEmpty
  | _ => false

/-- A scalar as a text: what is written there. -/
def text (s : Spot) : Decoded String :=
  match s.opened with
  | .scalar _ _ _ text => .ok text
  | n => .error (mismatch n)

/-! ### Values -/

/-- A scalar as a value. -/
def jsonOfScalar : Scalar → Decoded Json
  | .null => .ok .null
  | .bool b => .ok (.bool b)
  | .int i =>
    match Json.ofInt? i with
    | some j => .ok j
    | none => .error .malformed
  | .float f => .ok (Json.ofFloat f)
  | .text s => .ok (.str s)

/-- A node as a value, down to a depth. Keys are taken as they are written, and of two values
with one key the later one counts. -/
def jsonOf (anchors : List (Nat × Node)) : Nat → Node → Decoded Json
  | depth, n =>
    match depth, n.follow anchors with
    | _, .void => .ok .null
    | _, .broken => .error .malformed
    | _, .aliasOf _ => .error .malformed
    | _, .scalar _ tag style text =>
      if isOwnTag tag then .error .invalidType
      else (Scalar.ofTagged tag style text).bind jsonOfScalar
    | 0, .list _ tag _ => .error (if isOwnTag tag then .invalidType else .malformed)
    | 0, .map _ tag _ => .error (if isOwnTag tag then .invalidType else .malformed)
    | depth + 1, .list _ tag items =>
      if isOwnTag tag then .error .invalidType
      else return .arr (← items.mapM (jsonOf anchors depth))
    | depth + 1, .map _ tag entries =>
      if isOwnTag tag then .error .invalidType
      else return Json.ofMembers (← (pairs entries).mapM fun (key, value) => do
        let name ← Spot.text ⟨key, anchors, depth⟩
        return (name, ← jsonOf anchors depth value))

/-- A node as a value. -/
def json (s : Spot) : Decoded Json := jsonOf s.anchors s.depth s.node

/-! ### Shapes -/

/-- The items of a list. -/
def items (s : Spot) : Decoded (List Spot) :=
  match s.opened with
  | .list _ _ items => if s.depth = 0 then .error .malformed else .ok (items.map s.inner)
  | n => if isBlankNode n then .ok [] else .error (mismatch n)

/-- The keys and values of a mapping. -/
def entries (s : Spot) : Decoded (List (Spot × Spot)) :=
  match s.opened with
  | .map _ _ ns =>
    if s.depth = 0 then .error .malformed
    else .ok ((pairs ns).map fun (key, value) => (s.inner key, s.inner value))
  | n => if isBlankNode n then .ok [] else .error (mismatch n)

/-- A truth value. -/
def bool (s : Spot) : Decoded Bool :=
  match s.opened with
  | .scalar anchor tag style text =>
    let isTagged := style = .literal ∧ tag = some "tag:yaml.org,2002:bool"
    match bool? text with
    | some b =>
      if style = .plain ∨ isTagged then .ok b else .error (mismatch (.scalar anchor tag style text))
    | none => .error (mismatch (.scalar anchor tag style text))
  | n => .error (mismatch n)

/-- Is there anything in a node? -/
def isPresent (s : Spot) : Decoded Bool :=
  match s.opened with
  | .void => .ok false
  | .broken => .error .malformed
  | .scalar _ tag style text =>
    if style ≠ .plain then .ok true
    else if tag = some "tag:yaml.org,2002:null" then
      if isNull text then .ok false else .error .invalidValue
    else .ok (tag.isSome || !(text.isEmpty || isNull text))
  | _ => .ok true

/-- There may be nothing in a scalar. -/
def isNothing (text : String) : Decoded Unit :=
  if text.isEmpty || isNull text then .ok () else .error .invalidValue

/-- The name of a choice: a tag of the document's own with nothing behind it, or a scalar. -/
def variant (s : Spot) : Decoded (String × Decoded Unit) :=
  let named (tag : Option String) : Option String :=
    if isOwnTag tag then tag.map fun t => String.ofList (t.toList.drop 1) else none
  match s.opened with
  | .scalar _ tag style text =>
    match named tag with
    | some name =>
      .ok (name, if style = .plain then isNothing text else .error .invalidValue)
    | none => .ok (text, .ok ())
  | .list _ tag _ | .map _ tag _ =>
    match named tag with
    | some name => .ok (name, .error .invalidType)
    | none => .error .invalidType
  | n => .error (mismatch n)

/-- A node that nobody wants. -/
def skip (s : Spot) : Decoded Unit :=
  if s.node.hasFault then .error .malformed else .ok ()

end Spot

/-- The first document of a text decoded; there must be nothing behind it. -/
def decode {α : Type} (shape : Spot → Decoded α) (text : String) : Decoded α := do
  let document := Document.read text
  let a ← shape ⟨document.root, document.anchors, Document.maxDepth⟩
  if document.isWhole then return a else throw .malformed

end TemplateCheck.Yaml

namespace TemplateCheck.Format

open TemplateCheck.Yaml in
/-- Trees of YAML as a format. -/
def ofYaml : Format Spot where
  string := Spot.text
  bool := Spot.bool
  isPresent := Spot.isPresent
  items := Spot.items
  fields _ s := do return (← s.entries).map fun (key, value) => (key.text, value)
  variant := Spot.variant
  members s := do
    (← s.entries).mapM fun (key, value) => do return (← key.text, ← value.json)
  skip := Spot.skip

end TemplateCheck.Format
