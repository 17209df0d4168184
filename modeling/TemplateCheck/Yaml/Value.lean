import TemplateCheck.Decode.OfYaml

/-!
# Values of YAML

Any document as a value, with its tags. This is how a text is checked that is to be YAML: no
mapping may have a key twice, where keys are told apart by what they stand for.

* `Value` — a value; `Value.same` says when two are the same key;
* `Value.ofNode` — a node as a value;
* `Value.read` — a whole text as a value.
-/

namespace TemplateCheck.Yaml

/-- A value. -/
inductive Value where
  | scalar (s : Scalar)
  | list (items : List Value)
  | map (entries : List (Value × Value))
  | tagged (tag : String) (content : Value)
deriving Inhabited

/-- Do two scalars stand for the same? Here a float that is not a number is the same as
another. -/
def Scalar.same : Scalar → Scalar → Bool
  | .null, .null => true
  | .bool a, .bool b => a == b
  | .int a, .int b => a == b
  | .float a, .float b => a == b || (a.isNaN && b.isNaN)
  | .text a, .text b => a == b
  | _, _ => false

namespace Value

mutual

/-- Are two values the same? The order of the entries of a mapping does not matter. -/
def same : Value → Value → Bool
  | .scalar a, .scalar b => a.same b
  | .list as, .list bs => allSame as bs
  | .map as, .map bs => as.length == bs.length && allFound as bs
  | .tagged a v, .tagged b w => a == b && same v w
  | _, _ => false

/-- Are values the same one by one? -/
def allSame : List Value → List Value → Bool
  | [], [] => true
  | a :: as, b :: bs => same a b && allSame as bs
  | _, _ => false

/-- Are all the entries of a mapping in another one? -/
def allFound : List (Value × Value) → List (Value × Value) → Bool
  | [], _ => true
  | (key, value) :: as, bs => bs.any (fun (k, v) => same key k && same value v) && allFound as bs

end

/-! ### Reading -/

/-- A scalar as a value. Whole numbers have at most 64 bits. -/
def ofScalar (s : Scalar) : Decoded Value :=
  match s with
  | .int i => if (Json.ofInt? i).isSome then .ok (.scalar s) else .error .invalidType
  | _ => .ok (.scalar s)

/-- The name of a tag of the document's own; it must not be empty. -/
def tagName? (tag : Option String) : Decoded (Option String) :=
  if Spot.isOwnTag tag then
    if tag = some "!" then .error .malformed else .ok tag
  else .ok none

/-- A value with its tag. -/
def withTag : Option String → Value → Value
  | some tag, v => .tagged tag v
  | none, v => v

/-- The entries of a mapping, whose keys and values are read in turn. No key may be there
twice. -/
def entriesOf (read : Node → Decoded Value) :
    List (Value × Value) → List (Node × Node) → Decoded (List (Value × Value))
  | done, [] => .ok done.reverse
  | done, (k, v) :: rest => do
    let key ← read k
    if done.any (·.1.same key) then throw .duplicateEntry
    else entriesOf read ((key, ← read v) :: done) rest

/-- A node as a value, down to a depth. -/
def ofNode (anchors : List (Nat × Node)) : Nat → Node → Decoded Value
  | depth, n =>
    match depth, n.follow anchors with
    | _, .void => .ok (.scalar .null)
    | _, .broken => .error .malformed
    | _, .aliasOf _ => .error .malformed
    | _, .scalar _ tag style text => do
      match ← tagName? tag with
      | some name => return .tagged name (← ofScalar (Scalar.ofUntagged style text))
      | none => (Scalar.ofTagged tag style text).bind ofScalar
    | 0, .list .. => .error .malformed
    | 0, .map .. => .error .malformed
    | depth + 1, .list _ tag items => do
      let name ← tagName? tag
      return withTag name (.list (← items.mapM (ofNode anchors depth)))
    | depth + 1, .map _ tag entries => do
      let name ← tagName? tag
      return withTag name (.map (← entriesOf (ofNode anchors depth) [] (Spot.pairs entries)))

/-- The value that a whole text holds. -/
def read (text : String) : Decoded Value :=
  decode (fun s => ofNode s.anchors s.depth s.node) text

end Value

end TemplateCheck.Yaml
