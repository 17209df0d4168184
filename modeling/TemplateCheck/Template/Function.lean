import TemplateCheck.Template.Argument

/-!
# Functions

The functions that every template knows, except for the one that makes records and the one that
tells the state of the rendering, which need a machine.

* `Functions` — the further functions that a parser gives to its templates;
* `builtin?` — the function that every template knows by a name.
-/

namespace TemplateCheck.Template

/-- Functions by their names. A function takes its arguments in one list, in which keyword
arguments are one map at the end. -/
abbrev Functions := KeyMap (List Value → Except FaultKind Value)

namespace Function

open Taking (one optional)

/-- The most numbers that a range may have. -/
def rangeLimit : Nat := 100000

/-- The numbers from one up or down to another, in steps. -/
def range (args : List Value) : Use Value := do
  let (a, b, step) ← Taking.all
    (do return (← one Reading.int64, ← optional Reading.int64, ← optional Reading.int64)) args
  let (first, stop) :=
    match b with
    | some stop => (a, stop)
    | none => (0, a)
  let step := step.getD 1
  if step = 0 then Use.fail .invalidOperation
  else
    let distance := if 0 < step then stop - first else first - stop
    let count := (distance.toNat + step.natAbs - 1) / step.natAbs
    if count > rangeLimit then Use.fail .invalidOperation
    else return .seq .derived ((List.range count).map fun (i : Nat) => .int (first + i * step))

/-- A map with the entries of another one and those given by keyword. -/
def dict (args : List Value) : Use Value := do
  let (keywords, v) ← Taking.all
    (do return (← Taking.keywords, ← optional Reading.any)) args
  match v with
  | none => return .ofEntries keywords
  | some (.map _ entries) => return .ofEntries (entries ++ keywords)
  | some _ => Use.fail .invalidOperation

/-- The arguments as they appear inside containers, over several lines. There is one at least. -/
def debug (args : List Value) : Use Value := do
  match args with
  | [v] => return .ofString v.pretty
  | vs => return .ofString (Value.ofList vs).pretty

/-- The entries that a new record gets. -/
def recordEntries (args : List Value) : Use (List (String × Value)) := do
  match ← Taking.all (optional Reading.any) args with
  | none => return []
  | some (.map _ entries) => return entries.filterMap fun (k, v) => k.text?.map (·, v)
  | some _ => Use.fail .invalidOperation

/-- The name of the function that makes records. -/
def recordMaker : String := "namespace"

/-- The function that every template knows by a name. -/
def builtin? (name : String) : Option (List Value → Use Value) :=
  match name with
  | "range" => some range
  | "dict" => some dict
  | "debug" => some debug
  | _ => none

/-- Is a call one for the state of the rendering? -/
def asksForState (name : String) (args : List Value) : Bool :=
  name == "debug" && args.isEmpty

/-- Does a name stand for a function, unless it has another meaning? -/
def isKnown (functions : Functions) (name : String) : Bool :=
  functions.contains name || name == recordMaker || (builtin? name).isSome

end Function

end TemplateCheck.Template
