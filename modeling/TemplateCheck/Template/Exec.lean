import TemplateCheck.Template.Eval

/-!
# Running statements

* `Stmt.exec` — the text that a statement is rendered to;
* `Calls.upTo` — routines, recursive loops, blocks and the template itself, so many levels deep;
* `Setting.render` — the text of a whole template.
-/

namespace TemplateCheck.Template

namespace Run

/-- The printed form of a value. -/
def print (line : Nat) (v : Value) : Run String := do
  use line (Use.accept v)
  let m ← get
  return (m.reveal v).printed m.escaping

/-- The texts of steps for one item after the other. -/
def eachItem (step : Nat → Value → Run String) : Nat → List Value → Run String
  | _, [] => return ""
  | index, v :: vs => do
    let text ← step index v
    return text ++ (← eachItem step (index + 1) vs)

/-- The items for which a step holds. -/
def whichItems (step : Value → Run Bool) : List Value → Run (List Value)
  | [] => return []
  | v :: vs => do
    if ← step v then return v :: (← whichItems step vs) else whichItems step vs

/-- How deep a new loop is inside of recursive loops. -/
def loopDepth : Run Nat := do
  match ← currentLoop with
  | some l => return if l.again.isSome then l.depth + 1 else 0
  | none => return 0

/-- The text of a loop: a step for each item, in a frame of its own. -/
def loop (line : Nat) (items : List Value) (sized : Bool) (again : Option LoopBody)
    (step : Value → Run String) : Run String := do
  let depth ← loopDepth
  let id := (← get).loops.size
  modify fun m => { m with loops := m.loops.push ⟨items, sized, 0, depth, none, again⟩ }
  inFrame line { Frame.empty with loop := some id } do
    eachItem (fun index v => do
      modify fun m => { m with loops := m.loops.modify id fun l => { l with index } }
      step v) 0 items

/-- Does a mode switch escaping on? -/
def escapingOf (line : Nat) (v : Value) : Run Bool :=
  match v with
  | .str s _ =>
    if s = "html" then return true
    else if s = "none" then return false
    else fail line .invalidOperation
  | v => return v.equal (.bool true)

/-- A computation with escaping on or off. -/
def withEscaping {α : Type} (escaping : Bool) (run : Run α) : Run α := do
  let before := (← get).escaping
  modify ({ · with escaping })
  let a ← run
  modify ({ · with escaping := before })
  return a

/-- A new routine, which keeps the values of the names that it uses. If there are none and no other
routine made the frame keep any, it sees no names at all. -/
def newRoutine (s : Setting) (name : String) (params : List String) (defaults : List Expr)
    (body : List Stmt) : Run Value := do
  let free := freeNames params defaults body
  let kept := free.filter (· != "caller")
  unless kept.isEmpty do enclose s (← closure) kept
  let seen := (← top).closure
  let m ← get
  let routine : Routine := ⟨name, params, defaults, body, seen, free.contains "caller"⟩
  set { m with routines := m.routines.push routine }
  return .object (.routine m.routines.size name)

/-- The text of another template. The only one there is is the template itself. -/
def include_ (s : Setting) (calls : Calls) (line : Nat) (name : Value) (optional : Bool) :
    Run String := do
  let choices :=
    match name with
    | .seq _ items => items
    | .map _ entries => entries.map (·.1)
    | v => [v]
  let rec try_ : List Value → Run String
    | [] =>
      if optional || choices.isEmpty then return "" else fail line .templateNotFound
    | v :: vs =>
      match v.text? with
      | none => fail line .invalidOperation
      | some t => if t = s.name then calls.whole line else try_ vs
  try_ choices

end Run

namespace Stmt

mutual

/-- The text of a statement. -/
def exec (s : Setting) (calls : Calls) : Stmt → Run String
  | .text t => return t
  | .print line e => do
    let v ← e.eval s calls .none
    Run.print line v
  | .loop line target items condition recursive body others => do
    let v ← items.eval s calls .none
    let vs ← Run.use line (Use.itemsOf ((← get).reveal v))
    let sized := condition.isSome || !v.isStream
    let vs ←
      match condition with
      | none => pure vs
      | some (at_, e) =>
        Run.inFrame line Frame.empty do
          Run.whichItems (fun v => do
            target.assign s calls v
            let v ← e.eval s calls .none
            Run.condition at_ v) vs
    let again := if recursive then some ⟨line, target, body⟩ else none
    let text ← Run.loop line vs sized again fun v => do
      target.assign s calls v
      execAll s calls body
    if vs.isEmpty then execAll s calls others else return text
  | .choose line condition yes no => do
    let v ← condition.eval s calls .none
    if ← Run.condition line v then execAll s calls yes else execAll s calls no
  | .bind line bindings body =>
    Run.inFrame line Frame.empty do
      bindings.forM fun (target, e) => do
        let v ← e.eval s calls .none
        target.assign s calls v
      execAll s calls body
  | .set target e => do
    let v ← e.eval s calls .none
    target.assign s calls v
    return ""
  | .capture target chain body => do
    let text ← execAll s calls body
    let v ← chain.eval s calls (← Run.captured text)
    target.assign s calls v
    return ""
  | .filter line chain body => do
    let text ← execAll s calls body
    let v ← chain.eval s calls (← Run.captured text)
    Run.print line v
  | .escape line mode body => do
    let v ← mode.eval s calls .none
    let escaping ← Run.escapingOf line v
    Run.withEscaping escaping (execAll s calls body)
  | .block line _ body => Run.inFrame line Frame.empty (execAll s calls body)
  | .required line => Run.fail line .invalidOperation
  | .extend line e => do
    let v ← e.eval s calls .none
    match v.text? with
    | none => Run.fail line .invalidOperation
    | some t => Run.fail line (if t = s.name then .invalidOperation else .templateNotFound)
  | .include_ line e optional => do
    let v ← e.eval s calls .none
    Run.include_ s calls line v optional
  | .import_ line e target => do
    let (printed, names) ← Run.inFrame line Frame.empty do
      let v ← e.eval s calls .none
      let printed ← Run.include_ s calls line v false
      return (printed, (← Run.top).names.entries)
    target.assign s calls (.map (.titled printed) (names.map fun (k, v) => (.ofString k, v)))
    return ""
  | .importNames line e names => do
    let found ← Run.inFrame line Frame.empty do
      let v ← e.eval s calls .none
      let _ ← Run.include_ s calls line v false
      let m ← get
      return names.map fun (name, target) => (target, (m.lookup s name).getD (.undefined false))
    found.reverse.forM fun (target, v) => Run.store target v
    return ""
  | .routine _ name params defaults body => do
    Run.store name (← Run.newRoutine s name params defaults body)
    return ""
  | .callWith line _ callee kinds args params defaults body => do
    let f ← callee.evalCallee s calls .none
    let given ← Expr.evalSome s calls .none false kinds args
    let keyed ← Expr.evalSome s calls .none true kinds args
    let caller ← Run.newRoutine s "caller" params defaults body
    let more := [(Value.ofString "caller", caller)]
    let v ← f line (← Run.arguments line (given ++ keyed) more)
    Run.print line v
  | .run call => do
    let _ ← call.eval s calls .none
    return ""

/-- The text of statements one after the other. -/
def execAll (s : Setting) (calls : Calls) : List Stmt → Run String
  | [] => return ""
  | stmt :: rest => do
    let text ← exec s calls stmt
    return text ++ (← execAll s calls rest)

end

end Stmt

/-! ### Calls -/

namespace Routine

/-- The values that the parameters of a routine get: by place, by keyword, or none. -/
def values (params : List String) (places : List Value) (keywords : Keywords) :
    Except FaultKind (List Value) :=
  match params with
  | [] => .ok []
  | p :: ps =>
    match places, keywords.find? p with
    | _ :: _, some _ => .error .tooManyArguments
    | v :: vs, none => do return v :: (← values ps vs keywords)
    | [], some v => do return v :: (← values ps [] keywords)
    | [], none => do return .undefined false :: (← values ps [] keywords)

/-- The values of the parameters of a routine, and the body that the call passes. Every argument has
to belong to a parameter. -/
def bind (r : Routine) (args : List Value) :
    Except FaultKind (List Value × Option Value) := do
  let (places, keywords) := Keywords.split args
  if places.length > r.params.length then throw .tooManyArguments
  let vs ← values r.params places keywords
  let used := if r.usesCaller then "caller" :: r.params else r.params
  if keywords.any fun (key, _) => key.text?.any (!used.contains ·) then throw .tooManyArguments
  let caller := if r.usesCaller then some ((keywords.find? "caller").getD (.undefined false))
    else none
  return (vs, caller)

/-- The parameters of a routine with their values and defaults, the last one first. -/
def bindings (r : Routine) (vs : List Value) : List (String × Value × Option Expr) :=
  let defaults := r.defaults.reverse.map some ++ List.replicate r.params.length none
  (r.params.zip vs).reverse.zip defaults |>.map fun ((p, v), d) => (p, v, d)

/-- How many levels a call of a routine takes. -/
def callDepth : Nat := 4

/-- The value of a call of a routine: its text. -/
def run (s : Setting) (calls : Calls) (line id : Nat) (args : List Value) : Run Value := do
  match (← get).routines[id]? with
  | none => Run.fail line .invalidOperation
  | some r =>
    let (vs, caller) ← Run.use line (Use.of (r.bind args))
    let outer ← get
    let inner : Machine := { outer with
      frames := [{ Frame.empty with base := r.closure.elim .nothing .closure }]
      depth := outer.depth + outer.frames.length + callDepth
      inRoutine := true }
    if Run.isTooDeep inner then Run.fail line .invalidOperation
    else
      set inner
      if let some v := caller then Run.store "caller" v
      (r.bindings vs).forM fun (p, v, default) =>
        match default with
        | some e => do
          let v ← if v.isUndefined then e.eval s calls .none else pure v
          Run.store p v
        | none => Run.store p v
      let text ← Stmt.execAll s calls r.body
      modify fun m => { m with
        frames := outer.frames, depth := outer.depth, inRoutine := outer.inRoutine }
      Run.captured text

end Routine

/-- The text of a recursive loop over the items of a value. -/
def LoopBody.run (s : Setting) (calls : Calls) (l : LoopBody) (v : Value) : Run String := do
  let vs ← Run.use l.line (Use.itemsOf ((← get).reveal v))
  Run.loop l.line vs (!v.isStream) (some l) fun w => do
    l.target.assign s calls w
    Stmt.execAll s calls l.body

/-- The text of a block by its name. -/
def Program.runBlock (s : Setting) (calls : Calls) (line : Nat) (name : String) : Run String := do
  match (← get).inRoutine, (Stmt.blocksIn s.program.body).lookup name with
  | false, some body => Run.inFrame line Frame.empty (Stmt.execAll s calls body)
  | _, _ => Run.fail line .unknownBlock

/-- How many levels an inclusion takes. -/
def Program.includeDepth : Nat := 10

/-- The text of the template inside of it. The closure of the frame under way is out of reach
there. -/
def Program.runWhole (s : Setting) (calls : Calls) (line : Nat) : Run String := do
  let outer ← get
  let depth := outer.depth + Program.includeDepth
  if Run.isTooDeep { outer with depth } then Run.fail line .invalidOperation
  else
    let kept := (← Run.top).closure
    let withClosure (closure : Option Nat) (m : Machine) : Machine :=
      match m.frames with
      | f :: fs => { m with frames := { f with closure } :: fs }
      | [] => m
    modify fun m =>
      { withClosure none m with depth, escaping := s.escaping, inRoutine := false }
    let text ← Run.failingAs line .badInclude (Stmt.execAll s calls s.program.body)
    modify fun m => { withClosure kept m with
      depth := outer.depth, escaping := outer.escaping, inRoutine := outer.inRoutine }
    return text

/-- What runs other parts of a template, so many levels deep. -/
def Calls.upTo (s : Setting) : Nat → Calls
  | 0 =>
    { routine := fun line _ _ => Run.fail line .invalidOperation
      again := fun line _ _ => Run.fail line .invalidOperation
      block := fun line _ => Run.fail line .invalidOperation
      whole := fun line => Run.fail line .invalidOperation }
  | n + 1 =>
    let calls := Calls.upTo s n
    { routine := Routine.run s calls
      again := fun _ => LoopBody.run s calls
      block := Program.runBlock s calls
      whole := Program.runWhole s calls }

/-- The text of a template. Every call takes a level, so the limit on levels bounds the calls inside
each other too. -/
def Setting.render (s : Setting) (policy : Policy) : Except (FaultKind × Nat) String :=
  let calls := Calls.upTo s (Run.levelLimit + 2)
  match Stmt.execAll s calls s.program.body (Machine.start s) policy with
  | .ok (text, _) => .ok text
  | .error fault => .error fault

end TemplateCheck.Template
