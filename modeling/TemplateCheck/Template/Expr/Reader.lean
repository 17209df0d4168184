import TemplateCheck.Template.Cursor
import TemplateCheck.Template.Expr.Basic

/-!
# Reading expressions

The grammar of expressions, from the loosest to the tightest binding: the choice by `if`, `or`,
`and`, `not`, comparisons, sums, joined texts, products, powers, signs, and what stands behind a
value: attributes, items, calls, filters and tests.

* `Grammar` — the readers of whole expressions;
* `Grammar.at` — those for a number of levels of nesting that are left; a whole expression takes one
  level, and a value in it another one.
-/

namespace TemplateCheck.Template

open Reader

/-- The readers of expressions. -/
structure Grammar where
  /-- Any expression. -/
  whole : Reader Expr
  /-- An expression that is no choice by `if`. -/
  simple : Reader Expr

namespace Grammar

/-- The most arguments that a call may have. -/
def argumentLimit : Nat := 2000

/-! ### Lists -/

/-- Members with commas between them up to a closing sign; there may be a comma behind the last
one. -/
def members {α : Type} (closing : Sign) (member : Reader α) : Reader (List α) :=
  collect fun count => do
    if ← accept (isSign closing) then return none
    else
      if count > 0 then
        want (isSign .comma)
        if ← accept (isSign closing) then return none
      return some (← member)

/-- One argument of a call. Behind one with a keyword there is none by its place. -/
def argument (g : Grammar) (keyworded : Bool) : Reader (ArgKind × Expr) := do
  if ← accept (isSign .power) then return (.keywords, ← g.whole)
  else if ← accept (isSign .times) then return (.spread, ← g.whole)
  else
    let e ← g.whole
    match e with
    | .var _ name =>
      if ← accept (isSign .assign) then return (.keyword name, ← g.whole)
      else if keyworded then fail
      else return (.plain, e)
    | e => if keyworded then fail else return (.plain, e)

/-- The arguments of a call, the last one first, with `found` before them. -/
def argumentsFrom (g : Grammar) (found : List (ArgKind × Expr)) :
    Reader (Option (List (ArgKind × Expr))) := do
  if ← sees (isSign .closeParen) then return none
  else
    if !found.isEmpty then want (isSign .comma)
    if ← sees (isSign .closeParen) then return none
    else
      let a ← argument g (found.any fun (kind, _) => kind.isKeyword)
      if found.length ≥ argumentLimit then fail else return some (a :: found)

/-- The arguments of a call with the parentheses around them. -/
def arguments (g : Grammar) : Reader (List ArgKind × List Expr) := do
  want (isSign .openParen)
  let found ← fold (argumentsFrom g) []
  want (isSign .closeParen)
  return found.reverse.unzip

/-- The arguments, if there is a parenthesis. -/
def optionalArguments (g : Grammar) : Reader (List ArgKind × List Expr) := do
  if ← sees (isSign .openParen) then arguments g else return ([], [])

/-! ### Values -/

/-- What stands between parentheses: an expression, or a list if there is a comma. -/
def parenthesized (g : Grammar) (line : Nat) : Reader Expr := do
  if ← accept (isSign .closeParen) then return .list line []
  else
    let e ← g.whole
    if ← sees (isSign .comma) then
      let more ← collect fun _ => do
        if ← accept (isSign .closeParen) then return none
        else
          want (isSign .comma)
          if ← accept (isSign .closeParen) then return none
          else return some (← g.whole)
      return .list line (e :: more)
    else
      want (isSign .closeParen)
      return e

/-- An entry of a map. -/
def entry (g : Grammar) : Reader (List Expr) := do
  let key ← g.whole
  want (isSign .colon)
  return [key, ← g.whole]

/-- The value that a reserved word stands for. -/
def wordValue? (s : String) : Option Value :=
  if s = "true" ∨ s = "True" then some (.bool true)
  else if s = "false" ∨ s = "False" then some (.bool false)
  else if s = "none" ∨ s = "None" then some .none
  else none

/-- Texts one right after the other behind a text, which are one text. -/
def adjacentTexts (s : String) : Reader String := do
  let more ← collect fun _ => do
    match ← peek? with
    | some (.text t) =>
      let _ ← next?
      return some t
    | _ => return none
  return s ++ String.join more

/-- A value: a word, a name, a text, a number, a list, a map, or something in parentheses. -/
def primary (g : Grammar) : Reader Expr := do
  let line ← Reader.line
  match ← next with
  | .name s =>
    match wordValue? s with
    | some v => return .const line v
    | none => return .var line s
  | .text s => return .const line (.ofString (← adjacentTexts s))
  | .int n => return .const line (.int n)
  | .float f => return .const line (.float f)
  | .sign .openParen => parenthesized g line
  | .sign .openBracket => return .list line (← members .closeBracket g.whole)
  | .sign .openBrace => return .map line (← members .closeBrace (entry g)).flatten
  | _ => fail

/-- A value with minus signs in front of it. -/
def signed (value : Reader Expr) : Reader Expr := do
  let lines ← collect fun _ => do
    let line ← Reader.line
    if ← accept (isSign .minus) then return some line else return none
  let e ← value
  return lines.foldr .negate e

/-! ### Behind a value -/

/-- A bound of a slice, or none. -/
def bound (e : Option Expr) : Expr := e.getD (.omitted .none)

/-- What stands between brackets behind a value. -/
def subscript (g : Grammar) (line : Nat) (e : Expr) : Reader Expr := do
  let start ← if ← sees (isSign .colon) then pure none else some <$> g.whole
  if ← accept (isSign .colon) then
    let stop ←
      if ← sees fun t => isSign .closeBracket t || isSign .colon t then pure none
      else some <$> g.whole
    let step ←
      if ← accept (isSign .colon) then
        if ← sees (isSign .closeBracket) then pure none else some <$> g.whole
      else pure none
    want (isSign .closeBracket)
    return .slice line e (bound start) (bound stop) (bound step)
  else
    want (isSign .closeBracket)
    match start with
    | some key => return .item line e key
    | none => fail

/-- One attribute, item or call behind a value that starts on a line, if there is one. -/
def postfix1 (g : Grammar) : Nat × Expr → Reader (Option (Nat × Expr)) := fun (line, e) => do
  let here ← Reader.line
  if ← accept (isSign .dot) then
    match ← next with
    | .name s => return some (here, .attr line e s)
    | .int n => return some (here, .item line e (.const here (.int n)))
    | _ => fail
  else if ← accept (isSign .openBracket) then return some (here, ← subscript g line e)
  else if ← sees (isSign .openParen) then
    let (kinds, args) ← arguments g
    return some (here, .call line e kinds args)
  else return none

/-- All attributes, items and calls behind a value that starts on a line. -/
def postfixes (g : Grammar) (line : Nat) (e : Expr) : Reader Expr := do
  return (← fold (postfix1 g) (line, e)).2

/-- Can the token start the argument of a test without parentheses? -/
def startsArgument : Token → Bool
  | .name s => !(["and", "or", "else", "is"].contains s)
  | .text _ => true
  | .int _ => true
  | .float _ => true
  | .sign .plus => true
  | .sign .minus => true
  | .sign .openBracket => true
  | .sign .openBrace => true
  | _ => false

/-- A name that may have further names behind points. -/
def dottedName : Reader String := do
  let first ← Reader.name
  let more ← collect fun _ => do
    if ← accept (isSign .dot) then return some (← Reader.name) else return none
  return String.intercalate "." (first :: more)

/-- A filter behind an expression: its name, the line of that, and its arguments. -/
def filterName (g : Grammar) : Reader (Nat × String × List ArgKind × List Expr) := do
  let line ← Reader.line
  let name ← dottedName
  let (kinds, args) ← optionalArguments g
  return (line, name, kinds, args)

/-- One filter or test behind an expression, if there is one. -/
def filter1 (g : Grammar) (value : Reader Expr) (e : Expr) : Reader (Option Expr) := do
  if ← accept (isSign .bar) then
    let (line, name, kinds, args) ← filterName g
    return some (.filter line name e kinds args)
  else if ← accept (isWord "is") then
    let negated ← accept (isWord "not")
    let line ← Reader.line
    let name ← dottedName
    let (kinds, args) ←
      if ← sees (isSign .openParen) then arguments g
      else if ← sees startsArgument then
        let here ← Reader.line
        let arg ← postfixes g here (← signed value)
        pure ([.plain], [arg])
      else pure ([], [])
    let test := Expr.test line name e kinds args
    return some (if negated then .not line test else test)
  else return none

/-- A value with all that stands in front of it and behind it. -/
def operand (g : Grammar) (value : Reader Expr) : Reader Expr := do
  let line ← Reader.line
  let e ← postfixes g line (← signed value)
  fold (filter1 g value) e

/-! ### Operators -/

/-- Operands with operators of one level between them, grouped from the left. -/
def level (operator? : Token → Option BinaryOp) (sub : Reader Expr) : Reader Expr := do
  let line ← Reader.line
  let first ← sub
  fold (fun left => do
    match (← peek?).bind operator? with
    | none => return none
    | some op =>
      let _ ← next?
      return some (.binary line op left (← sub))) first

/-- Powers. -/
def powerOp? : Token → Option BinaryOp
  | .sign .power => some .power
  | _ => none

/-- Products, quotients and remainders. -/
def productOp? : Token → Option BinaryOp
  | .sign .times => some .multiply
  | .sign .over => some .divide
  | .sign .floor => some .floorDivide
  | .sign .percent => some .modulo
  | _ => none

/-- Joined texts. -/
def concatOp? : Token → Option BinaryOp
  | .sign .tilde => some .concat
  | _ => none

/-- Sums and differences. -/
def sumOp? : Token → Option BinaryOp
  | .sign .plus => some .add
  | .sign .minus => some .subtract
  | _ => none

/-- Sums of joined texts of products of powers. -/
def sum (operand : Reader Expr) : Reader Expr :=
  level sumOp? (level concatOp? (level productOp? (level powerOp? operand)))

/-- The comparison that a sign stands for. -/
def comparison? : Token → Option Comparison
  | .sign .equal => some .equal
  | .sign .unequal => some .unequal
  | .sign .less => some .less
  | .sign .atMost => some .lessOrEqual
  | .sign .greater => some .greater
  | .sign .atLeast => some .greaterOrEqual
  | _ => none

/-- A comparison operator, if there is one. -/
def comparisonOp : Reader (Option Comparison) := do
  match (← peek?).bind comparison? with
  | some op =>
    let _ ← next?
    return some op
  | none =>
    if ← accept (isWord "in") then return some .isIn
    else if ← accept (isWord "not") then
      want (isWord "in")
      return some .notIn
    else return none

/-- Sums with comparisons between them. -/
def comparison (operand : Reader Expr) : Reader Expr := do
  let line ← lastLine
  let first ← sum operand
  let more ← collect fun _ => do
    match ← comparisonOp with
    | none => return none
    | some op => return some (op, ← sum operand)
  match more with
  | [] => return first
  | more =>
    let (ops, others) := more.unzip
    return .compare line first ops others

/-- Comparisons with `not` in front of them. -/
def negation (operand : Reader Expr) : Reader Expr := do
  let lines ← collect fun _ => do
    let line ← Reader.line
    if ← accept (isWord "not") then return some line else return none
  let e ← comparison operand
  return lines.foldr .not e

/-- Expressions with a word between them, grouped from the left. -/
def joined (word : String) (make : Nat → Expr → Expr → Expr) (sub : Reader Expr) :
    Reader Expr := do
  let line ← Reader.line
  let first ← sub
  fold (fun left => do
    if ← accept (isWord word) then return some (make line left (← sub)) else return none) first

/-- Expressions with `or` between expressions with `and` between them. -/
def disjunction (operand : Reader Expr) : Reader Expr :=
  joined "or" .or (joined "and" .and (negation operand))

/-- Choices by `if`; what stands behind `else` is a choice again, at most so often. Without it the
choice may yield nothing, which may be printed. -/
def choice (simple : Reader Expr) : Nat → Reader Expr
  | 0 => simple
  | n + 1 => do
    let line ← lastLine
    let first ← simple
    let (_, e) ← fold (fun (line, e) => do
      if ← accept (isWord "if") then
        let test ← simple
        let no ← if ← accept (isWord "else") then some <$> choice simple n else pure none
        let made := Expr.choose line test e (no.getD (.omitted (.undefined true)))
        return some (← lastLine, made)
      else return none) (line, first)
    return e

/-- Simple expressions, from whole ones and from the values that stand in them. -/
def simpleOf (whole value : Reader Expr) : Reader Expr :=
  disjunction (operand { whole, simple := fail } value)

/-- The readers of expressions that may be nested so many levels deep. -/
protected def «at» : Nat → Grammar
  | 0 => { whole := fail, simple := simpleOf fail fail }
  | depth + 1 =>
    let inner := Grammar.at depth
    let whole : Reader Expr := do choice inner.simple ((← get).size + 1)
    { whole, simple := simpleOf whole (primary inner) }

end Grammar

end TemplateCheck.Template
