import TemplateCheck.Template.Expr.Basic

/-!
# Free names

A routine keeps the values of the names that it uses but does not define. `freeNames` lists them.

A name counts as defined from the statement on that gives it a value, in the body around that
statement and in all bodies inside it; the value given is read after the name is defined.
-/

namespace TemplateCheck.Template

namespace FreeNames

/-- The names found so far, and those that are defined at this place. -/
structure Found where
  free : List String
  defined : List String

/-- Computations that look for names. -/
abbrev Search := StateM Found

/-- A name is defined from here on. -/
def define (name : String) : Search Unit :=
  modify fun f => { f with defined := name :: f.defined }

/-- A name is used. -/
def use (name : String) : Search Unit :=
  modify fun f =>
    if f.defined.contains name then f
    else { free := name :: f.free, defined := name :: f.defined }

/-- A search in a body: what is defined in it is not defined behind it. -/
def within (search : Search Unit) : Search Unit := do
  let outer := (← get).defined
  search
  modify ({ · with defined := outer })

mutual

/-- The names that an expression uses. A slice uses those of its bounds; what it is taken of is not
searched. -/
def inExpr : Expr → Search Unit
  | .var _ name => use name
  | .not _ e => inExpr e
  | .negate _ e => inExpr e
  | .and _ a b => do inExpr a; inExpr b
  | .or _ a b => do inExpr a; inExpr b
  | .binary _ _ a b => do inExpr a; inExpr b
  | .compare _ first _ others => do inExpr first; inExprs others
  | .choose _ condition yes no => do inExpr condition; inExpr yes; inExpr no
  | .filter _ _ e _ args => do inExpr e; inExprs args
  | .test _ _ e _ args => do inExpr e; inExprs args
  | .attr _ e _ => inExpr e
  | .item _ e key => do inExpr e; inExpr key
  | .slice _ _ start stop step => do inExpr start; inExpr stop; inExpr step
  | .call _ callee _ args => do inExpr callee; inExprs args
  | .list _ items => inExprs items
  | .map _ entries => inExprs entries
  | .const _ _ => return
  | .omitted _ => return
  | .input => return

/-- The names that expressions use. -/
def inExprs : List Expr → Search Unit
  | [] => return
  | e :: es => do inExpr e; inExprs es

end

mutual

/-- The names that a target defines. An attribute is no name. -/
def inTarget : Target → Search Unit
  | .name s => define s
  | .attr _ e _ => inExpr e
  | .all _ targets => inTargets targets

/-- The names that targets define. -/
def inTargets : List Target → Search Unit
  | [] => return
  | t :: ts => do inTarget t; inTargets ts

end

/-- The names of bindings. -/
def inBindings : List (Target × Expr) → Search Unit
  | [] => return
  | (target, e) :: rest => do inTarget target; inExpr e; inBindings rest

/-- Names that are defined one after the other. -/
def defineAll : List String → Search Unit
  | [] => return
  | name :: names => do define name; defineAll names

mutual

/-- The names of a statement. -/
def inStmt : Stmt → Search Unit
  | .text _ => return
  | .print _ e => inExpr e
  | .loop _ target items condition _ body others => do
    within do
      define "loop"
      inExpr items
      inTarget target
      if let some (_, e) := condition then inExpr e
      inBody body
    within (inBody others)
  | .choose _ test yes no => do
    inExpr test
    within (inBody yes)
    within (inBody no)
  | .bind _ bindings body => within do
    inBindings bindings
    inBody body
  | .set target value => do
    inTarget target
    inExpr value
  | .capture target _ body => do
    inTarget target
    within (inBody body)
  | .filter _ _ body => within (inBody body)
  | .escape _ _ body => within (inBody body)
  | .block _ _ body => within do
    define "super"
    inBody body
  | .required _ => return
  | .extend _ name => inExpr name
  | .include_ _ name _ => inExpr name
  | .import_ _ name target => do
    inExpr name
    inTarget target
  | .importNames _ name names => do
    inExpr name
    defineAll (names.map (·.2))
  | .routine _ name params defaults body => do
    define name
    define "caller"
    defineAll params
    inExprs defaults
    inBody body
  | .callWith _ _ callee _ args params defaults body => do
    inExpr callee
    inExprs args
    define "caller"
    defineAll params
    inExprs defaults
    inBody body
  | .run call => inExpr call

/-- The names of statements. -/
def inBody : List Stmt → Search Unit
  | [] => return
  | s :: ss => do inStmt s; inBody ss

end

end FreeNames

/-- The names that a routine uses but does not define. -/
def freeNames (params : List String) (defaults : List Expr) (body : List Stmt) : List String :=
  let search : FreeNames.Search Unit := do
    FreeNames.defineAll params
    FreeNames.inExprs defaults
    FreeNames.inBody body
  (search.run ⟨[], []⟩).2.free

end TemplateCheck.Template
