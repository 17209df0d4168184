import TemplateCheck.Template.Expr.Operator

/-!
# Lines of failures

A failure of an operation is reported for the line that was reached last, in the order in which
expressions are evaluated, before the operation itself. `Expr.settle` puts that line into every
expression, and the value into every constant one.

A negation is an exception: it is reported for the line it starts on.
-/

namespace TemplateCheck.Template

/-- Computations that keep the line reached last. -/
abbrev Lines := StateM Nat

/-- A line is reached. -/
def Lines.reach (line : Nat) : Lines Unit := set line

/-- Are all keyword arguments literals, each by its own keyword? -/
def areLiteral (kinds : List ArgKind) (args : List Expr) : Bool :=
  (kinds.zip args).all fun (kind, e) =>
    match kind with
    | .keyword _ => e.literal?.isSome
    | .keywords => false
    | _ => true

/-- Arguments of which those by keyword come from one list and the others from another. -/
def mergeArgs : List ArgKind → List Expr → List Expr → List Expr
  | kind :: kinds, a :: as, b :: bs =>
    (if kind.isKeyword then b else a) :: mergeArgs kinds as bs
  | _, as, _ => as

namespace Expr

mutual

/-- An expression with its lines settled. -/
def settle (e : Expr) : Lines Expr :=
  match constant? e with
  | some v => do
    Lines.reach e.line
    return .const e.line v
  | none =>
    match e with
    | .const line v => return .const line v
    | .omitted v => return .omitted v
    | .input => return .input
    | .var line name => do
      Lines.reach line
      return .var line name
    | .not line e => do
      Lines.reach line
      let e ← settle e
      return .not (← get) e
    | .negate line e => do
      Lines.reach line
      return .negate line (← settle e)
    | .and line a b => do
      Lines.reach line
      let a ← settle a
      let at_ ← get
      return .and at_ a (← settle b)
    | .or line a b => do
      Lines.reach line
      let a ← settle a
      let at_ ← get
      return .or at_ a (← settle b)
    | .binary line op a b => do
      Lines.reach line
      let a ← settle a
      let b ← settle b
      return .binary (← get) op a b
    | .compare line first ops others => do
      Lines.reach line
      let first ← settle first
      let others ← settleAll others
      return .compare (← get) first ops others
    | .choose line condition yes no => do
      Lines.reach line
      let condition ← settle condition
      let at_ ← get
      let yes ← settle yes
      return .choose at_ condition yes (← settle no)
    | .filter line name e kinds args => do
      Lines.reach line
      let e ← settle e
      let plain ← settleSome false kinds args
      let keyed ← if areLiteral kinds args then pure args else settleSome true kinds args
      return .filter (← get) name e kinds (mergeArgs kinds plain keyed)
    | .test line name e kinds args => do
      Lines.reach line
      let e ← settle e
      let plain ← settleSome false kinds args
      let keyed ← if areLiteral kinds args then pure args else settleSome true kinds args
      return .test (← get) name e kinds (mergeArgs kinds plain keyed)
    | .attr line e name => do
      Lines.reach line
      let e ← settle e
      return .attr (← get) e name
    | .item line e key => do
      Lines.reach line
      let e ← settle e
      let key ← settle key
      return .item (← get) e key
    | .slice line e start stop step => do
      Lines.reach line
      let e ← settle e
      let start ← settle start
      let stop ← settle stop
      let step ← settle step
      return .slice (← get) e start stop step
    | .call line callee kinds args => do
      Lines.reach line
      let callee ← settleCallee callee
      let plain ← settleSome false kinds args
      let keyed ← if areLiteral kinds args then pure args else settleSome true kinds args
      return .call (← get) callee kinds (mergeArgs kinds plain keyed)
    | .list line items => do
      Lines.reach line
      return .list line (← settleAll items)
    | .map line entries => do
      Lines.reach line
      return .map line (← settleAll entries)

/-- What is called, with its lines settled. A name that is called, and the name of a method, are
not looked at before the arguments. -/
def settleCallee : Expr → Lines Expr
  | .var line name => return .var line name
  | .attr line e name => do
    match e with
    | .var _ "self" => return .attr line e name
    | e => return .attr line (← settle e) name
  | e => settle e

/-- Expressions one after the other. -/
def settleAll : List Expr → Lines (List Expr)
  | [] => return []
  | e :: es => do
    let e ← settle e
    return e :: (← settleAll es)

/-- The arguments that are given by keyword, or the others, one after the other. -/
def settleSome (keyed : Bool) : List ArgKind → List Expr → Lines (List Expr)
  | kind :: kinds, e :: es => do
    let e ← if kind.isKeyword == keyed then settle e else pure e
    return e :: (← settleSome keyed kinds es)
  | _, es => return es

end

end Expr

end TemplateCheck.Template
