import TemplateCheck.Template.Expr.Basic

/-!
# Operators

* `BinaryOp.apply`, `Comparison.apply` — what the operators of expressions compute;
* `Expr.constant?` — the value of an expression that is the same in every model.
-/

namespace TemplateCheck.Template

/-- The value of an operation. -/
def BinaryOp.apply : BinaryOp → Value → Value → Value.Outcome
  | .add => Value.add
  | .subtract => Value.subtract
  | .multiply => Value.multiply
  | .divide => Value.divide
  | .floorDivide => Value.floorDivide
  | .modulo => Value.modulo
  | .power => Value.power
  | .concat => fun a b => .ok (a.concat b)

/-- Does a comparison hold? -/
def Comparison.apply (op : Comparison) (a b : Value) : Except FaultKind Bool :=
  match op with
  | .equal => .ok (a.equal b)
  | .unequal => .ok (!a.equal b)
  | .less => .ok (a.compare b == .lt)
  | .lessOrEqual => .ok (a.compare b != .gt)
  | .greater => .ok (a.compare b == .gt)
  | .greaterOrEqual => .ok (a.compare b != .lt)
  | .isIn => b.holds a
  | .notIn => (b.holds a).map (!·)

namespace Expr

/-- The value of a literal. -/
def literal? : Expr → Option Value
  | .const _ v => some v
  | _ => none

/-- Each two neighbours of a list, as pairs. -/
def pairs {α : Type} : List α → List (α × α)
  | a :: b :: rest => (a, b) :: pairs rest
  | _ => []

/-- Do comparisons hold between each two neighbours? -/
def chain? (first : Value) : List Comparison → List Value → Option Bool
  | op :: ops, v :: vs =>
    match op.apply first v with
    | .ok true => chain? v ops vs
    | .ok false => some false
    | .error _ => none
  | _, _ => some true

mutual

/-- The value of an expression that is the same in every model. Of the expressions with `and` and
`or`, both parts have to be constant, and `and` yields false unless both count as true. -/
def constant? : Expr → Option Value
  | .const _ v => some v
  | .not _ e => (constant? e).map fun v => .bool !v.isTrue
  | .negate _ e => (constant? e).bind fun v => (v.negate).toOption
  | .and _ a b =>
    match constant? a, constant? b with
    | some v, some w => some (if v.isTrue && w.isTrue then w else .bool false)
    | _, _ => none
  | .or _ a b =>
    match constant? a, constant? b with
    | some v, some w => some (if v.isTrue then v else w)
    | _, _ => none
  | .binary _ op a b =>
    match constant? a, constant? b with
    | some v, some w => (op.apply v w).toOption
    | _, _ => none
  | .compare _ first ops others =>
    match constant? first, constants? others with
    | some v, some vs => (chain? v ops vs).map .bool
    | _, _ => none
  | .list _ items => (items.mapM literal?).map .ofList
  | .map _ entries => (entries.mapM literal?).map fun vs => .ofEntries (pairs vs)
  | _ => none

/-- The values of expressions that are all constant. -/
def constants? : List Expr → Option (List Value)
  | [] => some []
  | e :: es =>
    match constant? e, constants? es with
    | some v, some vs => some (v :: vs)
    | _, _ => none

end

end Expr

end TemplateCheck.Template
