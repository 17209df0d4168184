import TemplateCheck.Template.Policy
import TemplateCheck.Template.Value.Access

/-!
# Arguments

How filters, tests and functions take their arguments.

* `Use` — computations that may depend on the rules of the place where a value is used;
* `accept`, `part`, `itemsOf`, `condition` — the only places where the policy is asked;
* `Reading` — how one argument is read as a text, a number or a truth value;
* `Keywords` — the keyword arguments of a call, which stand last;
* `Taking` — arguments taken one after the other off the front of a list.
-/

namespace TemplateCheck.Template

/-- What is ruled where a value is used. -/
structure Rules where
  policy : Policy
  /-- Is what is printed escaped? -/
  escaping : Bool
deriving Repr, DecidableEq

/-- A computation under the rules of a place. -/
abbrev Use := ReaderT Rules (Except FaultKind)

namespace Use

/-- A fault. -/
def fail {α : Type} (kind : FaultKind) : Use α := fun _ => .error kind

/-- A result that does not depend on the rules. -/
def of {α : Type} (r : Except FaultKind α) : Use α := fun _ => r

/-! ### Asking the policy -/

/-- Under the strict policy an undefined value may only be used if it was left undefined on
purpose. -/
def accept (v : Value) : Use Unit := fun rules =>
  match v with
  | .undefined false => if rules.policy = .strict then .error .undefinedValue else .ok ()
  | _ => .ok ()

/-- The part of a value: if there is none, an undefined value, unless the value is undefined
itself and the policy forbids to look for parts of it. -/
def part (v : Value) (found : Option Value) : Use Value := fun rules =>
  match found with
  | some part => .ok part
  | none =>
    if v.isUndefined ∧ rules.policy ≠ .chainable then .error .undefinedValue
    else .ok (.undefined false)

/-- What a loop over a value runs through. -/
def itemsOf (v : Value) : Use (List Value) := do
  accept v
  match v.items? with
  | some items => return items
  | none => fail .invalidOperation

/-- What a loop over a value runs through, any fault being an invalid operation. -/
def itemsOrInvalid (v : Value) : Use (List Value) := fun rules =>
  match itemsOf v rules with
  | .ok items => .ok items
  | .error _ => .error .invalidOperation

/-- Does a value count as true? -/
def condition (v : Value) : Use Bool := do
  accept v
  return v.isTrue

end Use

/-! ### Reading one argument -/

/-- How an argument is read. -/
abbrev Reading (α : Type) := Value → Except FaultKind α

namespace Reading

/-- A reading that only some values have. -/
def orInvalid {α : Type} (f : Value → Option α) : Reading α := fun v =>
  match f v with
  | some a => .ok a
  | none => .error .invalidOperation

/-- The value as it is. -/
def any : Reading Value := .ok

/-- The printed form of a value. -/
def text : Reading String := fun v => .ok v.text

/-- A text. -/
def string : Reading String := orInvalid Value.text?

/-- A count. -/
def nat : Reading Nat := orInvalid Value.toNat?

/-- A whole number of 32 bits. -/
def int32 : Reading Int := orInvalid (Value.within (-(Nat.pow 2 31)) (Nat.pow 2 31 - 1))

/-- A whole number of 64 bits. -/
def int64 : Reading Int := orInvalid Value.toInt64?

/-- A truth value. -/
def bool : Reading Bool
  | .bool b => .ok b
  | _ => .error .invalidOperation

end Reading

/-! ### Keyword arguments -/

/-- The keyword arguments of a call. -/
abbrev Keywords := List (Value × Value)

namespace Keywords

/-- The arguments of a call before its keyword arguments, and these. -/
def split (args : List Value) : List Value × Keywords :=
  match args.getLast? with
  | some (.map .keywords entries) => (args.dropLast, entries)
  | _ => (args, [])

/-- The value of a keyword. -/
def find? (keywords : Keywords) (name : String) : Option Value :=
  Value.find? (.ofString name) keywords

/-- The value of a keyword, read by `f`, unless it is left out or `none`. -/
def get? {α : Type} (keywords : Keywords) (name : String) (f : Reading α) :
    Use (Option α) :=
  match keywords.find? name with
  | none => return none
  | some v =>
    if v.isUndefined || v.isNone then return none else return some (← Use.of (f v))

/-- What is given by place or else by a keyword, and the keyword if it was asked for. -/
def orGiven {α : Type} (keywords : Keywords) (name : String) (f : Reading α) (given : Option α) :
    Use (Option α × List String) := do
  match given with
  | some a => return (some a, [])
  | none => return (← keywords.get? name f, [name])

/-- The value of a truth-valued keyword; it is false if left out. -/
def flag (keywords : Keywords) (name : String) : Use Bool :=
  return (← keywords.get? name Reading.bool).getD false

/-- There are no keywords but the given ones, and all are texts. -/
def only (keywords : Keywords) (names : List String) : Use Unit :=
  keywords.forM fun (key, _) =>
    match key.text? with
    | some name => if names.contains name then return () else Use.fail .tooManyArguments
    | none => Use.fail .invalidOperation

end Keywords

/-! ### Taking arguments -/

/-- A computation that takes arguments off the front of a list. -/
abbrev Taking := StateT (List Value) Use

namespace Taking

/-- A value of any kind. -/
def value : Taking Value
  | [] => Use.fail .missingArgument
  | v :: rest => return (v, rest)

/-- An argument that has to be defined, read by `f`. -/
def one {α : Type} (f : Reading α) : Taking α
  | [] => Use.fail .missingArgument
  | v :: rest => do
    Use.accept v
    return (← Use.of (f v), rest)

/-- An argument that may be left out, be undefined or be `none`. -/
def optional {α : Type} (f : Reading α) : Taking (Option α)
  | [] => return (none, [])
  | v :: rest => do
    if v.isUndefined || v.isNone then return (none, rest)
    else return (some (← Use.of (f v)), rest)

/-- A value of any kind that may be left out. -/
def value? : Taking (Option Value)
  | [] => return (none, [])
  | v :: rest => return (some v, rest)

/-- All the arguments that are left. -/
def others : Taking (List Value) := fun args => return (args, [])

/-- The keyword arguments, which stand last. -/
def keywords : Taking Keywords := fun args =>
  let (before, found) := Keywords.split args
  return (found, before)

/-- What is taken from a list of arguments none of which may be left over. -/
def all {α : Type} (taking : Taking α) (args : List Value) : Use α := do
  let (a, left) ← taking args
  match left with
  | [] => return a
  | _ :: _ => Use.fail .tooManyArguments

end Taking

end TemplateCheck.Template
