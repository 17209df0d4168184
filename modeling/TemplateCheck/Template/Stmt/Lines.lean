import TemplateCheck.Template.Expr.Lines

/-!
# Lines of failures in statements

`Program.settled` puts into every statement of a template the line that its failures are reported
for: the line that was reached last before the failing step, in the order of evaluation.
-/

namespace TemplateCheck.Template

mutual

/-- A target with its lines settled. -/
def Target.settle : Target → Lines Target
  | .name s => return .name s
  | .attr line e key => do
    Lines.reach line
    let e ← e.settle
    return .attr (← get) e key
  | .all line targets => do
    Lines.reach line
    return .all line (← Target.settleAll targets)

/-- Targets one after the other. -/
def Target.settleAll : List Target → Lines (List Target)
  | [] => return []
  | t :: ts => do
    let t ← t.settle
    return t :: (← Target.settleAll ts)

end

namespace Stmt

/-- A printed expression with its lines settled. The text around a block and a loop is reported
for the line of the tag if they are called in it. -/
def settlePrint (line : Nat) (e : Expr) : Lines Stmt := do
  Lines.reach line
  match e with
  | .call here (.var l "super") kinds [] =>
    return .print here (.call here (.var l "super") kinds [])
  | .call _ (.var l "loop") kinds [arg] =>
    let arg ← arg.settle
    let at_ ← get
    return .print at_ (.call at_ (.var l "loop") kinds [arg])
  | .call _ (.attr l (.var m "self") name) kinds args =>
    return .print line (.call line (.attr l (.var m "self") name) kinds args)
  | e =>
    let e ← e.settle
    return .print (← get) e

/-- Bindings one after the other. -/
def settleBindings : List (Target × Expr) → Lines (List (Target × Expr))
  | [] => return []
  | (target, e) :: rest => do
    let e ← e.settle
    let target ← target.settle
    return (target, e) :: (← settleBindings rest)

mutual

/-- A statement with its lines settled. -/
def settle : Stmt → Lines Stmt
  | .text s => return .text s
  | .print line e => settlePrint line e
  | .loop line target items condition recursive body others => do
    Lines.reach line
    let (items, at_, condition) ←
      match condition with
      | none => do
        let items ← items.settle
        pure (items, ← get, none)
      | some (_, e) => do
        Lines.reach e.line
        let items ← items.settle
        let at_ ← get
        let _ ← target.settle
        let e ← e.settle
        pure (items, at_, some (← get, e))
    let target ← target.settle
    let body ← settleAll body
    let others ← settleAll others
    return .loop at_ target items condition recursive body others
  | .choose line test yes no => do
    Lines.reach line
    let test ← test.settle
    let at_ ← get
    let yes ← settleAll yes
    return .choose at_ test yes (← settleAll no)
  | .bind line bindings body => do
    Lines.reach line
    let bindings ← settleBindings bindings
    return .bind line bindings (← settleAll body)
  | .set target value => do
    let value ← value.settle
    return .set (← target.settle) value
  | .capture target chain body => do
    let body ← settleAll body
    let chain ← chain.settle
    return .capture (← target.settle) chain body
  | .filter line chain body => do
    Lines.reach line
    let body ← settleAll body
    let chain ← chain.settle
    return .filter (← get) chain body
  | .escape line mode body => do
    Lines.reach line
    let mode ← mode.settle
    let at_ ← get
    return .escape at_ mode (← settleAll body)
  | .block line name body => do
    Lines.reach line
    let body ← settleAll body
    Lines.reach line
    return .block line name body
  | .required line => return .required line
  | .extend line name => return .extend line (← name.settle)
  | .include_ line name optional => return .include_ line (← name.settle) optional
  | .import_ line name target => do
    let name ← name.settle
    return .import_ line name (← target.settle)
  | .importNames line name names => return .importNames line (← name.settle) names
  | .routine line name params defaults body => do
    Lines.reach line
    let defaults ← Expr.settleAll defaults.reverse
    return .routine line name params defaults.reverse (← settleAll body)
  | .callWith line here callee kinds args params defaults body => do
    Lines.reach line
    let callee ← Expr.settleCallee callee
    let plain ← Expr.settleSome false kinds args
    let keyed ← Expr.settleSome true kinds args
    Lines.reach here
    let defaults ← Expr.settleAll defaults.reverse
    let body ← settleAll body
    return .callWith (← get) here callee kinds (mergeArgs kinds plain keyed) params
      defaults.reverse body
  | .run call => do
    match call with
    | .call line callee kinds args => do
      Lines.reach line
      return .run (← (Expr.call line callee kinds args).settle)
    | e => return .run e

/-- Statements one after the other. -/
def settleAll : List Stmt → Lines (List Stmt)
  | [] => return []
  | s :: ss => do
    let s ← s.settle
    return s :: (← settleAll ss)

end

end Stmt

/-- A template with its lines settled. -/
def Program.settled (p : Program) : Program where
  body := ((Stmt.settleAll p.body).run 1).1

end TemplateCheck.Template
