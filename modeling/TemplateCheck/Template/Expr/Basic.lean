import TemplateCheck.Template.Value.Access

/-!
# Expressions

* `Expr` — the expressions that stand in tags;
* `Target` — what a value can be given to;
* `Stmt` — the statements of a template, text and expressions between them included;
* `Program` — a whole template.

Every expression that can fail has a line. As it is read this is the line where the expression
starts; `Program.settled` puts there the line that a failure is reported for.
-/

namespace TemplateCheck.Template

/-- Operators on two values. -/
inductive BinaryOp where
  | add | subtract | multiply | divide | floorDivide | modulo | power | concat
deriving Repr, DecidableEq

/-- Comparisons of two values. -/
inductive Comparison where
  | equal | unequal | less | lessOrEqual | greater | greaterOrEqual | isIn | notIn
deriving Repr, DecidableEq

/-- How an argument of a call is given. -/
inductive ArgKind where
  /-- By its place. -/
  | plain
  /-- All the items of a value, each by its place. -/
  | spread
  /-- By a keyword. -/
  | keyword (name : String)
  /-- All the entries of a map, each by a keyword. -/
  | keywords
deriving Repr, DecidableEq

/-- Is the argument given by a keyword? -/
def ArgKind.isKeyword : ArgKind → Bool
  | .keyword _ => true
  | .keywords => true
  | _ => false

/-- An expression. Arguments stand beside the list of the ways they are given in, and the
operators of a comparison beside the list of what follows them. The entries of a map are its keys
and values in turn. -/
inductive Expr where
  | const (line : Nat) (v : Value)
  | var (line : Nat) (name : String)
  /-- What is left out, with the value that this means. -/
  | omitted (v : Value)
  /-- The text that a filter is put on by the statement around it. -/
  | input
  | not (line : Nat) (e : Expr)
  | negate (line : Nat) (e : Expr)
  | and (line : Nat) (a b : Expr)
  | or (line : Nat) (a b : Expr)
  | binary (line : Nat) (op : BinaryOp) (a b : Expr)
  | compare (line : Nat) (first : Expr) (ops : List Comparison) (others : List Expr)
  | choose (line : Nat) (test yes no : Expr)
  | filter (line : Nat) (name : String) (e : Expr) (kinds : List ArgKind) (args : List Expr)
  | test (line : Nat) (name : String) (e : Expr) (kinds : List ArgKind) (args : List Expr)
  | attr (line : Nat) (e : Expr) (name : String)
  | item (line : Nat) (e key : Expr)
  | slice (line : Nat) (e start stop step : Expr)
  | call (line : Nat) (callee : Expr) (kinds : List ArgKind) (args : List Expr)
  | list (line : Nat) (items : List Expr)
  | map (line : Nat) (entries : List Expr)
deriving Inhabited

/-- What a value can be given to: a name, an attribute, or several targets that share the items of
the value. -/
inductive Target where
  | name (s : String)
  | attr (line : Nat) (e : Expr) (name : String)
  | all (line : Nat) (targets : List Target)
deriving Inhabited

/-- A statement. -/
inductive Stmt where
  | text (s : String)
  | print (line : Nat) (e : Expr)
  /-- The condition, which has a line of its own, chooses among the items before the loop
  starts. -/
  | loop (line : Nat) (target : Target) (items : Expr) (condition : Option (Nat × Expr))
      (recursive : Bool) (body others : List Stmt)
  | choose (line : Nat) (test : Expr) (yes no : List Stmt)
  | bind (line : Nat) (bindings : List (Target × Expr)) (body : List Stmt)
  | set (target : Target) (value : Expr)
  /-- The text of the body is given to the target after the filter. -/
  | capture (target : Target) (filter : Expr) (body : List Stmt)
  | filter (line : Nat) (filter : Expr) (body : List Stmt)
  | escape (line : Nat) (mode : Expr) (body : List Stmt)
  | block (line : Nat) (name : String) (body : List Stmt)
  /-- What stands in a block that another template has to fill. -/
  | required (line : Nat)
  | extend (line : Nat) (name : Expr)
  | include_ (line : Nat) (name : Expr) (optional : Bool)
  | import_ (line : Nat) (name : Expr) (target : Target)
  /-- Names of another template, and the names that their values get here. -/
  | importNames (line : Nat) (name : Expr) (names : List (String × String))
  /-- The defaults belong to the last parameters. -/
  | routine (line : Nat) (name : String) (params : List String) (defaults : List Expr)
      (body : List Stmt)
  /-- A call to which the body is passed as a routine of its own, and whose value is printed; the
  lines are those of the call and of the statement. -/
  | callWith (line here : Nat) (callee : Expr) (kinds : List ArgKind) (args : List Expr)
      (params : List String) (defaults : List Expr) (body : List Stmt)
  /-- A call whose value is not printed. -/
  | run (call : Expr)
deriving Inhabited

/-- A template as it is read. -/
structure Program where
  body : List Stmt
deriving Inhabited

/-- The line of an expression. -/
def Expr.line : Expr → Nat
  | .const line _ => line
  | .var line _ => line
  | .omitted _ => 0
  | .input => 0
  | .not line _ => line
  | .negate line _ => line
  | .and line _ _ => line
  | .or line _ _ => line
  | .binary line _ _ _ => line
  | .compare line _ _ _ => line
  | .choose line _ _ _ => line
  | .filter line _ _ _ _ => line
  | .test line _ _ _ _ => line
  | .attr line _ _ => line
  | .item line _ _ => line
  | .slice line _ _ _ _ => line
  | .call line _ _ _ => line
  | .list line _ => line
  | .map line _ => line

end TemplateCheck.Template
