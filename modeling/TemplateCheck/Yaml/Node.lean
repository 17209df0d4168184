import TemplateCheck.Yaml.Token.Scan

/-!
# Trees of YAML

The tree that the tokens of a document make.

* `Node` — a tree; where the rules are broken stands `broken`;
* `Builder` — computations that use tokens and know the anchors so far;
* `Builder.node` — one tree off the front of the tokens;
* `Document.read` — the first document of a text.

A broken document is a tree as well, so that what stands in front of the fault can be looked at
first.
-/

namespace TemplateCheck.Yaml

/-- A tree. -/
inductive Node where
  /-- There is no document. -/
  | void
  /-- From here on the rules are broken. -/
  | broken
  /-- The node with an anchor, once more. -/
  | aliasOf (anchor : Nat)
  | scalar (anchor : Option Nat) (tag : Option String) (style : Style) (text : String)
  | list (anchor : Option Nat) (tag : Option String) (items : List Node)
  /-- The keys and values of a mapping, in turn. -/
  | map (anchor : Option Nat) (tag : Option String) (entries : List Node)
deriving Repr, Inhabited

/-- A scalar that is not written. -/
def Node.empty : Node := .scalar none none .plain ""

/-! ### Building -/

/-- The state of building. -/
structure Tokens where
  /-- The tokens that are not used yet. If there are none, the rules are broken. -/
  rest : List Token
  /-- What the handles of tags stand for. -/
  handles : List (String × String)
  /-- The numbers of the anchors. -/
  anchors : List (String × Nat)
deriving Repr

/-- A computation that uses tokens. -/
abbrev Builder := StateM Tokens

namespace Builder

/-- The next token. -/
def peek : Builder (Option Token) := return (← get).rest.head?

/-- Use a token. -/
def skip : Builder Unit := modify fun s => { s with rest := s.rest.tail }

/-- The rules are broken here. -/
def fail : Builder Node := do
  modify fun s => { s with rest := [] }
  return .broken

/-- A new number for an anchor. Numbers count the names, so two anchors may share one. -/
def define : Option String → Builder (Option Nat)
  | none => return none
  | some name => do
    let anchors := (← get).anchors
    let others := anchors.filter (·.1 != name)
    modify fun s => { s with anchors := (name, anchors.length) :: others }
    return some anchors.length

/-- The node with an anchor, once more. -/
def aliasOf (name : String) : Builder Node := do
  match (← get).anchors.lookup name with
  | some anchor => return .aliasOf anchor
  | none => fail

/-- The anchor and the tag in front of a node, in any order. -/
def properties : Builder (Option String × Option (String × String)) := do
  match ← peek with
  | some (.anchor name) =>
    skip
    match ← peek with
    | some (.tag handle rest) =>
      skip
      return (some name, some (handle, rest))
    | _ => return (some name, none)
  | some (.tag handle rest) =>
    skip
    match ← peek with
    | some (.anchor name) =>
      skip
      return (some name, some (handle, rest))
    | _ => return (none, some (handle, rest))
  | _ => return (none, none)

/-- A tag with what its handle stands for. -/
def expand? (handles : List (String × String)) : String × String → Option String
  | ("", rest) => some rest
  | (handle, rest) => (handles.lookup handle).map (· ++ rest)

/-- Is the token one of some that have no text? -/
def isOneOf (ts : List Token) (t : Token) : Bool := ts.contains t

/-- A node that is not written if one of some tokens is next. -/
def unless_ (ts : List Token) (node : Builder Node) : Builder Node := do
  match ← peek with
  | none => fail
  | some t => if isOneOf ts t then return .empty else node

/-- The value of a key: a node behind a colon, or nothing. -/
def valueOf (ts : List Token) (node : Builder Node) : Builder Node := do
  match ← peek with
  | none => fail
  | some .value =>
    skip
    unless_ ts node
  | some _ => return .empty

mutual

/-- A node. A block may begin if `block`; if `indentless`, the items of a list may stand directly
below a key. -/
def node (block indentless : Bool) : Nat → Builder Node
  | 0 => fail
  | n + 1 => do
    if let some (.aliasOf name) ← peek then
      skip
      aliasOf name
    else
      let (name, written) ← properties
      let tag := written.bind (expand? (← get).handles)
      if written.isSome && tag.isNone then fail
      else
        match ← peek with
        | some (.scalar style text) =>
          skip
          return .scalar (← define name) (tag.filter (· != "!")) style text
        | some .openFlowList =>
          skip
          return .list (← define name) tag (← flowItems true n)
        | some .openFlowMap =>
          skip
          return .map (← define name) tag (← flowEntries true n)
        | some t =>
          if t = .dash ∧ indentless then
            return .list (← define name) tag (← indentlessItems n)
          else if t = .openList ∧ block then
            skip
            return .list (← define name) tag (← blockItems n)
          else if t = .openMap ∧ block then
            skip
            return .map (← define name) tag (← blockEntries n)
          else if name.isSome || tag.isSome then
            return .scalar (← define name) tag .plain ""
          else fail
        | none => fail

/-- The items of a block. -/
def blockItems : Nat → Builder (List Node)
  | 0 => return [← fail]
  | n + 1 => do
    match ← peek with
    | some .dash =>
      skip
      let item ← unless_ [.dash, .closeBlock] (node true false n)
      return item :: (← blockItems n)
    | some .closeBlock =>
      skip
      return []
    | _ => return [← fail]

/-- The items of a list that stands directly below a key. -/
def indentlessItems : Nat → Builder (List Node)
  | 0 => return [← fail]
  | n + 1 => do
    match ← peek with
    | some .dash =>
      skip
      let item ← unless_ [.dash, .key, .value, .closeBlock] (node true false n)
      return item :: (← indentlessItems n)
    | some _ => return []
    | none => return [← fail]

/-- The keys and values of a block. -/
def blockEntries : Nat → Builder (List Node)
  | 0 => return [← fail]
  | n + 1 => do
    match ← peek with
    | some .key =>
      skip
      let ends := [.key, .value, .closeBlock]
      let key ← unless_ ends (node true true n)
      let value ← valueOf ends (node true true n)
      return key :: value :: (← blockEntries n)
    | some .closeBlock =>
      skip
      return []
    | _ => return [← fail]

/-- The items between brackets. Behind the first one each has a comma in front of it; there may
be one behind the last. -/
def flowItems (first : Bool) : Nat → Builder (List Node)
  | 0 => return [← fail]
  | n + 1 => do
    if !first && (← peek) = some .comma then skip
    else if !first && (← peek) != some .closeFlowList then
      let _ ← fail
    match ← peek with
    | some .closeFlowList =>
      skip
      return []
    | some .key =>
      skip
      let pair ← flowPair n
      return pair :: (← flowItems false n)
    | some _ =>
      let item ← node false false n
      return item :: (← flowItems false n)
    | none => return [← fail]

/-- An item that is one key and its value. In place of a key that is not written a token is
passed over. -/
def flowPair : Nat → Builder Node
  | 0 => fail
  | n + 1 => do
    let ends := [.comma, .closeFlowList]
    let key ←
      match ← peek with
      | none => fail
      | some t =>
        if isOneOf (.value :: ends) t then
          skip
          pure Node.empty
        else node false false n
    return .map none none [key, ← valueOf ends (node false false n)]

/-- The keys and values between braces. -/
def flowEntries (first : Bool) : Nat → Builder (List Node)
  | 0 => return [← fail]
  | n + 1 => do
    if !first && (← peek) = some .comma then skip
    else if !first && (← peek) != some .closeFlowMap then
      let _ ← fail
    match ← peek with
    | some .closeFlowMap =>
      skip
      return []
    | some .key =>
      skip
      let ends := [.comma, .closeFlowMap]
      let key ← unless_ (.value :: ends) (node false false n)
      let value ← valueOf ends (node false false n)
      return key :: value :: (← flowEntries false n)
    | some _ =>
      let key ← node false false n
      let value ← match ← peek with
        | some _ => pure Node.empty
        | none => fail
      return key :: value :: (← flowEntries false n)
    | none => return [← fail]

end

/-- A node. No step of reading one goes deeper than twice the number of tokens. -/
def block : Builder Node := do
  node true false (2 * (← get).rest.length + 2)

/-! ### Documents -/

/-- The handles that need no directive. -/
def standardHandles : List (String × String) :=
  [("!", "!"), ("!!", "tag:yaml.org,2002:")]

/-- The directives in front of a document. A version may be named once, and a handle explained
once. -/
def directives (versions : Nat) (handles : List (String × String)) :
    List Token → Option (List (String × String) × List Token)
  | .version major minor :: ts =>
    if versions = 0 ∧ major = 1 ∧ (minor = 1 ∨ minor = 2) then directives 1 handles ts else none
  | .handle name expansion :: ts =>
    if (handles.lookup name).isSome then none
    else directives versions ((name, expansion) :: handles) ts
  | ts => some (handles, ts)

/-- A document behind its directives and its mark. -/
def explicit : Builder Node := do
  match directives 0 [] (← get).rest with
  | some (handles, .documentStart :: rest) =>
    set (⟨rest, handles ++ standardHandles, []⟩ : Tokens)
    match ← peek with
    | none => fail
    | some t =>
      match t with
      | .version .. | .handle .. | .documentStart | .documentEnd | .finish => return .empty
      | _ => block
  | _ => fail

/-- The first document. -/
def document : Builder Node := do
  match ← peek with
  | none => fail
  | some t =>
    match t with
    | .version .. | .handle .. | .documentStart => explicit
    | .finish => return .void
    | _ => block

end Builder

/-! ### Anchors -/

namespace Node

mutual

/-- The nodes with anchors, from the front to the back. -/
def anchored : Node → List (Nat × Node)
  | .scalar anchor tag style text =>
    (anchor.map fun a => (a, .scalar anchor tag style text)).toList
  | .list anchor tag items =>
    (anchor.map fun a => (a, .list anchor tag items)).toList ++ allAnchored items
  | .map anchor tag entries =>
    (anchor.map fun a => (a, .map anchor tag entries)).toList ++ allAnchored entries
  | _ => []

/-- The nodes with anchors in some nodes. -/
def allAnchored : List Node → List (Nat × Node)
  | [] => []
  | n :: ns => anchored n ++ allAnchored ns

end

mutual

/-- Are the rules broken somewhere in a node? -/
def hasFault : Node → Bool
  | .broken => true
  | .list _ _ items => anyHasFault items
  | .map _ _ entries => anyHasFault entries
  | _ => false

/-- Are the rules broken somewhere in some nodes? -/
def anyHasFault : List Node → Bool
  | [] => false
  | n :: ns => hasFault n || anyHasFault ns

end

mutual

/-- The size of a node: containers have a beginning and an end. -/
def size : Node → Nat
  | .broken => 0
  | .list _ _ items => 2 + totalSize items
  | .map _ _ entries => 2 + totalSize entries
  | _ => 1

/-- The size of some nodes together. -/
def totalSize : List Node → Nat
  | [] => 0
  | n :: ns => size n + totalSize ns

end

/-- A node, or the one that it stands for. -/
def follow (anchors : List (Nat × Node)) : Node → Node
  | .aliasOf a => (anchors.lookup a).getD .broken
  | n => n

/-- What is left of a number of references that may be followed, after all of a node has been
looked at, down to a depth. -/
def afterReferences (anchors : List (Nat × Node)) : Nat → Nat → Node → Option Nat
  | depth, budget, n => do
    let budget ← match n with
      | .aliasOf _ => if budget = 0 then none else some (budget - 1)
      | _ => some budget
    match depth, n.follow anchors with
    | depth + 1, .list _ _ items => items.foldlM (afterReferences anchors depth) budget
    | depth + 1, .map _ _ entries => entries.foldlM (afterReferences anchors depth) budget
    | _, _ => some budget

end Node

/-- A document. -/
structure Document where
  root : Node
  /-- The nodes with anchors; of several with one number the first counts here. -/
  anchors : List (Nat × Node)
  /-- Is there nothing behind it? -/
  isWhole : Bool
deriving Repr

namespace Document

/-- How deep containers may be nested. -/
def maxDepth : Nat := 128

/-- The first document of a text. A document whose references lead to too many nodes is broken. -/
def read (text : String) : Document :=
  let (root, state) := Builder.document.run ⟨Token.scan text, Builder.standardHandles, []⟩
  let anchors := root.anchored.reverse
  let isModest := (root.afterReferences anchors (maxDepth + 1) (100 * root.size)).isSome
  { root := if isModest then root else .broken
    anchors
    isWhole := state.rest.dropWhile (· == .documentEnd) == [.finish] }

end Document

end TemplateCheck.Yaml
