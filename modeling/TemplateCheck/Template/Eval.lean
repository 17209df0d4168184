import TemplateCheck.Template.Expr.Operator
import TemplateCheck.Template.Filter.Basic
import TemplateCheck.Template.Machine

/-!
# Evaluating expressions

* `Calls` — what runs other parts of the template;
* `Run.call`, `Run.callMethod` — calls of values;
* `Expr.eval` — the value of an expression;
* `Target.assign` — giving a value to a target.
-/

namespace TemplateCheck.Template

/-- What runs other parts of the template, each on behalf of a line. -/
structure Calls where
  /-- A routine with its arguments. -/
  routine : Nat → Nat → List Value → Run Value
  /-- A recursive loop over the items of another value. -/
  again : Nat → LoopBody → Value → Run String
  /-- A block. -/
  block : Nat → String → Run String
  /-- The template itself inside of it. -/
  whole : Nat → Run String

/-- An operation where a value is used. Only the values that are printed into one text have to be
defined; for the others there is no operation. -/
def BinaryOp.use (op : BinaryOp) (a b : Value) : Use Value := do
  if op = .concat then
    Use.accept a
    Use.accept b
  Use.of (op.apply a b)

namespace Run

/-! ### Parts of values -/

/-- The part of a value under a key. -/
def part (line : Nat) (v key : Value) : Run Value := do
  match v with
  | .object ref =>
    let found := key.text?.bind ((← get).attribute? ref)
    return found.getD (.undefined false)
  | v => use line (Use.part v (v.item? key))

/-- Text that was rendered, as a value. -/
def captured (text : String) : Run Value := return .str text (← get).escaping

/-! ### Arguments -/

/-- The arguments by place. -/
def places (line : Nat) : List (ArgKind × Value) → Run (List Value)
  | [] => return []
  | (kind, v) :: rest => do
    match kind with
    | .plain => return v :: (← places line rest)
    | .spread =>
      match ((← get).reveal v).items? with
      | some items => return items ++ (← places line rest)
      | none => fail line .invalidOperation
    | _ => places line rest

/-- The arguments by keyword, later ones last. -/
def keywords (line : Nat) : List (ArgKind × Value) → Run (List (Value × Value))
  | [] => return []
  | (kind, v) :: rest => do
    match kind with
    | .keyword name => return (.ofString name, v) :: (← keywords line rest)
    | .keywords =>
      use line (Use.accept v)
      match (← get).reveal v with
      | .map _ entries => return entries ++ (← keywords line rest)
      | _ => fail line .invalidOperation
    | _ => keywords line rest

/-- All the arguments of a call in one list. -/
def arguments (line : Nat) (given : List (ArgKind × Value)) (more : List (Value × Value)) :
    Run (List Value) := do
  let before ← places line given
  let named ← keywords line given
  if given.any (·.1.isKeyword) || !more.isEmpty then
    match Value.ofEntries (named ++ more) with
    | .map _ entries => return before ++ [.map .keywords entries]
    | _ => return before
  else return before

/-! ### Calls -/

/-- A new record. -/
def newRecord (line : Nat) (args : List Value) : Run Value := do
  let entries ← use line (Function.recordEntries args)
  let m ← get
  set { m with records := m.records.push (KeyMap.ofList entries) }
  return .object (.record m.records.size)

/-- The value of a function by its name. -/
def callFunction (s : Setting) (line : Nat) (name : String) (args : List Value) : Run Value := do
  let m ← get
  let shown := args.map m.reveal
  match s.functions.get? name, Function.builtin? name with
  | some f, _ => use line (Use.of (f shown))
  | none, some f =>
    if Function.asksForState name args then return .ofString (s.describe s.model m)
    else use line (f shown)
  | none, none =>
    if name = Function.recordMaker then newRecord line shown else fail line .unknownFunction

/-- The value of a call of a value. -/
def call (s : Setting) (calls : Calls) (line : Nat) (callee : Value) (args : List Value) :
    Run Value :=
  match callee with
  | .object (.function name) => callFunction s line name args
  | .object (.routine id _) => calls.routine line id args
  | .object (.loop _) => fail line .unknownFunction
  | _ => fail line .invalidOperation

/-- Did the arguments change since the loop was asked last? -/
def loopChanged (id : Nat) (args : List Value) : Run Value := do
  let m ← get
  let before := m.loops[id]?.bind (·.seen)
  let same := before.any fun vs => (Value.ofList vs).equal (.ofList args)
  unless same do
    set { m with loops := m.loops.modify id fun l => { l with seen := some args } }
  return .bool !same

/-- The argument whose turn it is in this round of the loop. -/
def loopCycle (id : Nat) (args : List Value) : Run Value := do
  let index := ((← get).loops[id]?.map (·.index)).getD 0
  return (args[index % args.length]?).getD (.undefined false)

/-- The value of a call of a method. A part of a value under the name can be called too. -/
def callMethod (s : Setting) (calls : Calls) (line : Nat) (v : Value) (name : String)
    (args : List Value) : Run Value := do
  match v, name with
  | .object (.loop id), "changed" => loopChanged id args
  | .object (.loop id), "cycle" => loopCycle id args
  | .object (.loop _), _ => fail line .unknownMethod
  | .object ref, name =>
    match (← get).attribute? ref name with
    | some f => call s calls line f args
    | none => fail line .unknownMethod
  | .map _ entries, name =>
    match Value.find? (.ofString name) entries with
    | some f => call s calls line f args
    | none => fail line .unknownMethod
  | .seq .group _, name =>
    match v.item? (.ofString name) with
    | some f => call s calls line f args
    | none => fail line .unknownMethod
  | _, _ => fail line .unknownMethod

/-- The text of a recursive loop, called from within it. -/
def recurse (calls : Calls) (line : Nat) (args : List Value) : Run Value := do
  match args with
  | [v] =>
    match (← currentLoop).bind (·.again) with
    | some body => captured (← calls.again line body v)
    | none => fail line .invalidOperation
  | _ => fail line .invalidOperation

/-- The value of a call of a name. In a loop the name of the loop calls it again, and the one of the
parent of a block calls nothing, for there is none. -/
def callName (s : Setting) (calls : Calls) (line : Nat) (name : String) (args : List Value) :
    Run Value := do
  if name = "super" then fail line .invalidOperation
  else if name = "loop" && (← currentLoop).isSome then recurse calls line args
  else
    match (← get).lookup s name with
    | some f => call s calls line f args
    | none => fail line .unknownFunction

/-! ### Operators, filters and tests -/

/-- The value of a filter. -/
def filter (line : Nat) (name : String) (args : List Value) : Run Value := do
  match Filter.ofName? name with
  | none => fail line .unknownFilter
  | some f =>
    let m ← get
    use line (f.apply (if f = .default then args else args.map m.reveal))

/-- Do the arguments pass a test? A container that is made on the spot is the same as no other
one. -/
def test (line : Nat) (name : String) (made : Bool) (args : List Value) : Run Value := do
  match Test.ofName? name with
  | none => fail line .unknownTest
  | some .sameAs =>
    let passed ← use line (Test.sameAs.passes args)
    return .bool (passed && !(made && args.any Value.isContainer))
  | some t =>
    let m ← get
    return .bool (← use line (t.passes (args.map m.reveal)))

/-- Does a value count as true? -/
def condition (line : Nat) (v : Value) : Run Bool := do
  match v with
  | .object _ => use line (Use.condition ((← get).reveal v))
  | v => use line (Use.condition v)

/-- Do comparisons hold between each two neighbours? What follows one that fails does not
count. -/
def comparisons (line : Nat) (first : Value) : List Comparison → List Value → Run Bool
  | op :: ops, v :: vs => do
    use line (Use.accept first)
    use line (Use.accept v)
    let m ← get
    if ← use line (Use.of (op.apply (m.reveal first) (m.reveal v))) then comparisons line v ops vs
    else return false
  | _, _ => return true

end Run

/-! ### Expressions -/

namespace Expr

/-- Does an expression make the container that it yields, rather than find it? -/
def makes : Expr → Bool
  | .var _ _ => false
  | .attr _ _ _ => false
  | .item _ _ _ => false
  | .and _ _ _ => false
  | .or _ _ _ => false
  | .choose _ _ _ _ => false
  | _ => true

mutual

/-- The value of an expression. `input` is the text that a filter is put on. -/
def eval (s : Setting) (calls : Calls) (input : Value) : Expr → Run Value
  | .const _ v => return v
  | .omitted v => return v
  | .input => return input
  | .var _ name => return ((← get).lookup s name).getD (.undefined false)
  | .not line e => do
    let v ← eval s calls input e
    return .bool !(← Run.condition line v)
  | .negate line e => do
    let v ← eval s calls input e
    Run.use line (Use.of v.negate)
  | .and line a b => do
    let v ← eval s calls input a
    if ← Run.condition line v then eval s calls input b else return v
  | .or line a b => do
    let v ← eval s calls input a
    if ← Run.condition line v then return v else eval s calls input b
  | .binary line op a b => do
    let v ← eval s calls input a
    let w ← eval s calls input b
    let m ← get
    Run.use line (op.use (m.reveal v) (m.reveal w))
  | .compare line first ops others => do
    let v ← eval s calls input first
    let vs ← evalAll s calls input others
    return .bool (← Run.comparisons line v ops vs)
  | .choose line condition yes no => do
    let v ← eval s calls input condition
    if ← Run.condition line v then eval s calls input yes else eval s calls input no
  | .filter line name e kinds args => do
    let v ← eval s calls input e
    let given ← evalSome s calls input false kinds args
    let keyed ← evalSome s calls input true kinds args
    Run.filter line name (v :: (← Run.arguments line (given ++ keyed) []))
  | .test line name e kinds args => do
    let v ← eval s calls input e
    let given ← evalSome s calls input false kinds args
    let keyed ← evalSome s calls input true kinds args
    let made := makes e || args.any makes
    Run.test line name made (v :: (← Run.arguments line (given ++ keyed) []))
  | .attr line e name => do
    let v ← eval s calls input e
    Run.part line v (.ofString name)
  | .item line e key => do
    let v ← eval s calls input e
    let k ← eval s calls input key
    Run.part line v k
  | .slice line e start stop step => do
    let v ← eval s calls input e
    let a ← eval s calls input start
    let b ← eval s calls input stop
    let c ← eval s calls input step
    Run.use line (Use.accept v)
    Run.use line (Use.of (v.slice a b c))
  | .call line callee kinds args => do
    let f ← evalCallee s calls input callee
    let given ← evalSome s calls input false kinds args
    let keyed ← evalSome s calls input true kinds args
    f line (← Run.arguments line (given ++ keyed) [])
  | .list _ items => return .ofList (← evalAll s calls input items)
  | .map _ entries => return .ofEntries (pairs (← evalAll s calls input entries))

/-- What a call does, from its line and its arguments. -/
def evalCallee (s : Setting) (calls : Calls) (input : Value) :
    Expr → Run (Nat → List Value → Run Value)
  | .var _ name => return fun line args => Run.callName s calls line name args
  | .attr _ e name =>
    match e with
    | .var _ "self" => return fun line _ => do Run.captured (← calls.block line name)
    | e => do
      let v ← eval s calls input e
      return fun line args => Run.callMethod s calls line v name args
  | e => do
    let v ← eval s calls input e
    return fun line args => Run.call s calls line v args

/-- The values of expressions one after the other. -/
def evalAll (s : Setting) (calls : Calls) (input : Value) : List Expr → Run (List Value)
  | [] => return []
  | e :: es => do
    let v ← eval s calls input e
    return v :: (← evalAll s calls input es)

/-- The values of the arguments that are given by keyword, or of the others, one after the
other. -/
def evalSome (s : Setting) (calls : Calls) (input : Value) (keyed : Bool) :
    List ArgKind → List Expr → Run (List (ArgKind × Value))
  | kind :: kinds, e :: es => do
    if kind.isKeyword == keyed then
      let v ← eval s calls input e
      return (kind, v) :: (← evalSome s calls input keyed kinds es)
    else evalSome s calls input keyed kinds es
  | _, _ => return []

end

end Expr

/-! ### Targets -/

mutual

/-- Give a value to a target. -/
def Target.assign (s : Setting) (calls : Calls) (v : Value) : Target → Run Unit
  | .name key => Run.store key v
  | .attr line e key => do
    match ← e.eval s calls .none with
    | .object (.record id) =>
      modify fun m => { m with records := m.records.modify id (·.insert key v) }
    | _ => Run.fail line .invalidOperation
  | .all line targets => do
    match (← get).reveal v with
    | .seq _ items => Target.assignAll s calls line items targets
    | .map _ entries => Target.assignAll s calls line (entries.map (·.1)) targets
    | _ => Run.fail line .cannotUnpack

/-- Give each value to the target at its place. -/
def Target.assignAll (s : Setting) (calls : Calls) (line : Nat) (vs : List Value) :
    List Target → Run Unit
  | [] => if vs.isEmpty then return () else Run.fail line .cannotUnpack
  | t :: ts =>
    match vs with
    | [] => Run.fail line .cannotUnpack
    | v :: vs => do
      Target.assign s calls v t
      Target.assignAll s calls line vs ts

end

end TemplateCheck.Template
