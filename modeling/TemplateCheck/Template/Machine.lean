import TemplateCheck.Template.Function
import TemplateCheck.Template.Stmt.FreeNames

/-!
# The machine

What a template changes while it is rendered.

* `Frame`, `Machine` — the names in reach, and what lives behind references;
* `Setting` — what stays the same: the template, its model and its functions;
* `Describe` — how the state of a rendering is told to a template that asks for it;
* `Run` — computations of the machine, which fail on a line;
* `Machine.lookup`, `Run.store` — the meaning of names;
* `Machine.reveal` — a value with what lives in the machine as maps.

A frame may have a closure: the names that the routines defined in it can see. Whatever is given a
value in such a frame is given it in the closure too.
-/

namespace TemplateCheck.Template

/-! ### What changes -/

/-- Where a frame looks a name up that it does not define. -/
inductive Base where
  | nothing
  | model
  | closure (id : Nat)
deriving Repr, DecidableEq

/-- A level of names. -/
structure Frame where
  names : KeyMap Value
  base : Base
  closure : Option Nat
  /-- The loop that the frame belongs to. -/
  loop : Option Nat

/-- A frame without names. -/
def Frame.empty : Frame := ⟨KeyMap.empty, .nothing, none, none⟩

/-- What a loop does with each item. -/
structure LoopBody where
  line : Nat
  target : Target
  body : List Stmt

/-- A running loop. -/
structure LoopState where
  items : List Value
  /-- Is it known how many items there are? -/
  sized : Bool
  index : Nat
  /-- How many recursive loops it runs in. -/
  depth : Nat
  /-- What was asked for last time when the loop was asked whether something changed. -/
  seen : Option (List Value)
  /-- What a recursive loop does. -/
  again : Option LoopBody

/-- A routine. -/
structure Routine where
  name : String
  params : List String
  /-- The values of the last parameters, if they are not given. -/
  defaults : List Expr
  body : List Stmt
  /-- The names that it can see, if there are any. -/
  closure : Option Nat
  /-- Does it use the body that a call passes? -/
  usesCaller : Bool

/-- The state of a rendering. -/
structure Machine where
  /-- The frames of the routine that runs, the innermost one first. -/
  frames : List Frame
  /-- The levels below those frames. -/
  depth : Nat
  escaping : Bool
  inRoutine : Bool
  closures : Array (KeyMap Value)
  loops : Array LoopState
  records : Array (KeyMap Value)
  routines : Array Routine

/-! ### What stays the same -/

/-- A text about the state of a rendering, from the model and the machine. Its wording is taken as
it is given; the name of the template has no part in it. -/
def Describe := KeyMap Value → Machine → String

/-- No text. -/
def Describe.none : Describe := fun _ _ => ""

/-- The surroundings of a rendering. -/
structure Setting where
  /-- The name of the template. -/
  name : String
  program : Program
  functions : Functions
  describe : Describe
  /-- Is what is printed escaped at first? -/
  escaping : Bool
  model : KeyMap Value

/-- The machine before a rendering. -/
def Machine.start (s : Setting) : Machine where
  frames := [{ Frame.empty with base := .model }]
  depth := 0
  escaping := s.escaping
  inRoutine := false
  closures := #[]
  loops := #[]
  records := #[]
  routines := #[]

/-- A computation of the machine. -/
abbrev Run := StateT Machine (ReaderT Policy (Except (FaultKind × Nat)))

namespace Run

/-- A failure. -/
def fail {α : Type} (line : Nat) (kind : FaultKind) : Run α := fun _ _ => .error (kind, line)

/-- A computation without a machine. -/
def use {α : Type} (line : Nat) (u : Use α) : Run α := fun m policy =>
  match u ⟨policy, m.escaping⟩ with
  | .ok a => .ok (a, m)
  | .error kind => .error (kind, line)

/-- A computation any failure of which is another one. -/
def failingAs {α : Type} (line : Nat) (kind : FaultKind) (run : Run α) : Run α := fun m policy =>
  match run m policy with
  | .ok r => .ok r
  | .error _ => .error (kind, line)

end Run

/-! ### Names -/

/-- The value of a name in a frame. -/
def Frame.find? (s : Setting) (m : Machine) (f : Frame) (name : String) : Option Value :=
  match f.names.get? name, f.loop with
  | some v, _ => some v
  | none, some id => if name = "loop" then some (.object (.loop id)) else found
  | none, none => found
where
  /-- The value of a name that the frame does not define itself. -/
  found : Option Value :=
    match f.base with
    | .nothing => none
    | .model => s.model.get? name
    | .closure id => m.closures[id]?.bind (·.get? name)

/-- The value of a name. -/
def Machine.lookup (s : Setting) (m : Machine) (name : String) : Option Value :=
  match m.frames.findSome? fun f => f.find? s m name with
  | some v => some v
  | none => if Function.isKnown s.functions name then some (.object (.function name)) else none

namespace Run

/-- The frame under way. -/
def top : Run Frame := return ((← get).frames.head?).getD Frame.empty

/-- Give a value to a name. -/
def store (name : String) (v : Value) : Run Unit := modify fun m =>
  match m.frames with
  | [] => m
  | f :: fs =>
    let m := { m with frames := { f with names := f.names.insert name v } :: fs }
    match f.closure with
    | none => m
    | some id => { m with closures := m.closures.modify id (·.insert name v) }

/-- The closure of the frame under way, which is made if there is none. -/
def closure : Run Nat := do
  let m ← get
  match m.frames with
  | [] => return 0
  | f :: fs =>
    match f.closure with
    | some id => return id
    | none =>
      let id := m.closures.size
      set { m with
        frames := { f with closure := some id } :: fs
        closures := m.closures.push KeyMap.empty }
      return id

/-- Put the values of names into a closure, except for those that it has. -/
def enclose (s : Setting) (id : Nat) (names : List String) : Run Unit := modify fun m =>
  let known := (m.closures[id]?).getD KeyMap.empty
  let enclosed := names.foldl (fun known name =>
    if known.contains name then known
    else known.insert name ((m.lookup s name).getD (.undefined false))) known
  { m with closures := m.closures.modify id fun _ => enclosed }

/-! ### Frames -/

/-- How many levels there may be. -/
def levelLimit : Nat := 500

/-- Are there too many levels? -/
def isTooDeep (m : Machine) : Bool := m.depth + m.frames.length > levelLimit

/-- A computation in a frame of its own. -/
def inFrame {α : Type} (line : Nat) (f : Frame) (run : Run α) : Run α := do
  if isTooDeep (← get) then fail line .invalidOperation
  else
    modify fun m => { m with frames := f :: m.frames }
    let a ← run
    modify fun m => { m with frames := m.frames.tail }
    return a

/-- The loop that runs innermost. -/
def currentLoop : Run (Option LoopState) := do
  let m ← get
  return (m.frames.findSome? (·.loop)).bind fun id => m.loops[id]?

end Run

/-! ### References -/

/-- The attributes of a running loop. -/
def LoopState.attributes (l : LoopState) : List (String × Value) :=
  let count := l.items.length
  let ifSized (v : Value) : Value := if l.sized then v else .undefined false
  let item (place : Nat) : Value := (l.items[place]?).getD (.undefined false)
  [("index0", .ofNat l.index), ("index", .ofNat (l.index + 1)),
    ("length", ifSized (.ofNat count)), ("revindex", ifSized (.ofNat (count - l.index))),
    ("revindex0", ifSized (.ofNat (count - l.index - 1))), ("first", .bool (l.index == 0)),
    ("last", ifSized (.bool (count == 0 || l.index + 1 == count))),
    ("depth", .ofNat (l.depth + 1)), ("depth0", .ofNat l.depth),
    ("previtem", if l.index = 0 then .undefined false else item (l.index - 1)),
    ("nextitem", item (l.index + 1))]

/-- A running loop as it is printed. -/
def LoopState.text (l : LoopState) : String :=
  let count := if l.sized then toString l.items.length else "?"
  "<loop " ++ toString l.index ++ "/" ++ count ++ ">"

/-- The attributes of a routine. -/
def Routine.attributes (r : Routine) : List (String × Value) :=
  [("name", .ofString r.name), ("arguments", .ofList (r.params.map .ofString)),
    ("caller", .bool r.usesCaller)]

/-- An attribute of what lives in the machine. -/
def Machine.attribute? (m : Machine) (ref : Ref) (name : String) : Option Value :=
  match ref with
  | .loop id => m.loops[id]?.bind (·.attributes.lookup name)
  | .record id => m.records[id]?.bind (·.get? name)
  | .routine id _ => m.routines[id]?.bind (·.attributes.lookup name)
  | .function _ => none

mutual

/-- A value with the references in it replaced. -/
def Value.replaceRefs (f : Ref → Value) : Value → Value
  | .seq kind items => .seq kind (replaceRefsIn f items)
  | .map keyword entries => .map keyword (replaceRefsInEntries f entries)
  | .object ref => f ref
  | v => v

/-- The items of a list with the references in them replaced. -/
def Value.replaceRefsIn (f : Ref → Value) : List Value → List Value
  | [] => []
  | v :: vs => replaceRefs f v :: replaceRefsIn f vs

/-- The entries of a map with the references in their values replaced. -/
def Value.replaceRefsInEntries (f : Ref → Value) : List (Value × Value) → List (Value × Value)
  | [] => []
  | (k, v) :: rest => (k, replaceRefs f v) :: replaceRefsInEntries f rest

end

/-- What lives in the machine as a map of its attributes, if it has any. -/
def Machine.asMap? (m : Machine) : Ref → Option (MapKind × List (String × Value))
  | .record id => m.records[id]?.map fun r => (.plain, r.entries)
  | .loop id => m.loops[id]?.map fun l => (.titled l.text, l.attributes)
  | .routine id name =>
    m.routines[id]?.map fun r => (.titled (Value.Ref.text (.routine id name)), r.attributes)
  | .function _ => none

/-- A value with what lives in the machine as maps, up to so many inside each other. -/
def Machine.revealUpTo (m : Machine) : Nat → Value → Value
  | 0, v => v
  | n + 1, v => v.replaceRefs fun ref =>
    match m.asMap? ref with
    | some (kind, entries) =>
      m.revealUpTo n (.map kind (entries.map fun (k, v) => (.ofString k, v)))
    | none => .object ref

/-- A value with what lives in the machine as maps. Records that hold each other are cut off. -/
def Machine.reveal (m : Machine) (v : Value) : Value :=
  m.revealUpTo (m.records.size + m.loops.size + 2) v

/-! ### Blocks -/

mutual

/-- The blocks in a statement. -/
def Stmt.blocks : Stmt → List (String × List Stmt)
  | .block _ name body => (name, body) :: Stmt.blocksIn body
  | .loop _ _ _ _ _ body others => Stmt.blocksIn body ++ Stmt.blocksIn others
  | .choose _ _ yes no => Stmt.blocksIn yes ++ Stmt.blocksIn no
  | .bind _ _ body => Stmt.blocksIn body
  | .capture _ _ body => Stmt.blocksIn body
  | .filter _ _ body => Stmt.blocksIn body
  | .escape _ _ body => Stmt.blocksIn body
  | _ => []

/-- The blocks in statements. -/
def Stmt.blocksIn : List Stmt → List (String × List Stmt)
  | [] => []
  | s :: ss => Stmt.blocks s ++ Stmt.blocksIn ss

end

end TemplateCheck.Template
