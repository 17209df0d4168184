import TemplateCheck.Template.Argument
import TemplateCheck.Text.Case

/-!
# Filters and tests

The filters that stand after a bar in an expression, by their names, and the tests that stand
after `is`. A test takes the tested value and its arguments in one list; there are tests for whether
there is a filter or a test with a name.

* `Filter` — the filters, `Filter.ofName?` finds one by its name;
* `Test` — the tests, `Test.ofName?` finds one by its name;
* `Test.passes` — whether the arguments pass a test.
-/

namespace TemplateCheck.Template

/-! ### Filters -/

/-- The filters. -/
inductive Filter where
  | safe | escape | lower | upper | title | capitalize | trim | replace | split | lines | indent
  | string | pretty | format | join | length | round | abs | int | float | bool | sum | default
  | attr | first | last | least | greatest | list | reverse | items | chain | zip | sort
  | dictSort | unique | groupBy | batch | slice | select | reject | selectAttr | rejectAttr | map
deriving Repr, DecidableEq

namespace Filter

/-- The names of the filters. -/
def named : List (String × Filter) :=
  [("safe", .safe), ("escape", .escape), ("e", .escape), ("lower", .lower), ("upper", .upper),
   ("title", .title), ("capitalize", .capitalize), ("trim", .trim), ("replace", .replace),
   ("split", .split), ("lines", .lines), ("indent", .indent), ("string", .string),
   ("pprint", .pretty), ("format", .format), ("join", .join), ("length", .length),
   ("count", .length), ("round", .round), ("abs", .abs), ("int", .int), ("float", .float),
   ("bool", .bool), ("sum", .sum), ("default", .default), ("d", .default), ("attr", .attr),
   ("first", .first), ("last", .last), ("min", .least), ("max", .greatest), ("list", .list),
   ("reverse", .reverse), ("items", .items), ("chain", .chain), ("zip", .zip), ("sort", .sort),
   ("dictsort", .dictSort), ("unique", .unique), ("groupby", .groupBy), ("batch", .batch),
   ("slice", .slice), ("select", .select), ("reject", .reject), ("selectattr", .selectAttr),
   ("rejectattr", .rejectAttr), ("map", .map)]

/-- The filter with a name. -/
def ofName? (name : String) : Option Filter := named.lookup name

end Filter

/-! ### Tests -/

/-- The tests. -/
inductive Test where
  | undefined | defined | none | safe | boolean | odd | even | divisibleBy | number | integer
  | float | string | sequence | iterable | mapping | startingWith | endingWith | lower | upper
  | sameAs | equal | unequal | less | lessOrEqual | greater | greaterOrEqual | isIn | isTrue
  | isFalse | filter | test
deriving Repr, DecidableEq

namespace Test

/-- The names of the tests. -/
def named : List (String × Test) :=
  [("undefined", .undefined), ("defined", .defined), ("none", .none), ("safe", .safe),
   ("escaped", .safe), ("boolean", .boolean), ("odd", .odd), ("even", .even),
   ("divisibleby", .divisibleBy), ("number", .number), ("integer", .integer), ("int", .integer),
   ("float", .float), ("string", .string), ("sequence", .sequence), ("iterable", .iterable),
   ("mapping", .mapping), ("startingwith", .startingWith), ("endingwith", .endingWith),
   ("lower", .lower), ("upper", .upper), ("sameas", .sameAs), ("eq", .equal),
   ("equalto", .equal), ("==", .equal), ("ne", .unequal), ("!=", .unequal), ("lt", .less),
   ("lessthan", .less), ("<", .less), ("le", .lessOrEqual), ("<=", .lessOrEqual),
   ("gt", .greater), ("greaterthan", .greater), (">", .greater), ("ge", .greaterOrEqual),
   (">=", .greaterOrEqual), ("in", .isIn), ("true", .isTrue), ("false", .isFalse),
   ("filter", .filter), ("test", .test)]

/-- The test with a name. -/
def ofName? (name : String) : Option Test := named.lookup name

/-- Tests of a single value. -/
def ofKind (p : Value → Bool) (args : List Value) : Use Bool := do
  return p (← Taking.all Taking.value args)

/-- Tests of two values. -/
def ofPair (p : Value → Value → Bool) (args : List Value) : Use Bool := do
  let (a, b) ← Taking.all (do return (← Taking.value, ← Taking.value)) args
  return p a b

/-- Tests of two texts, by their printed forms. -/
def ofTexts (p : List Char → List Char → Bool) (args : List Value) : Use Bool := do
  let (s, t) ← Taking.all (do return (← Taking.one Reading.text, ← Taking.one Reading.text)) args
  return p s.toList t.toList

/-- Tests of a text. -/
def ofText (p : String → Bool) (args : List Value) : Use Bool := do
  return p (← Taking.all (Taking.one Reading.string) args)

/-- Is the value a whole number with a given remainder by two? -/
def hasParity (remainder : Int) (v : Value) : Bool :=
  match v.within (-Value.intBound) (Value.intBound - 1) with
  | some i => i % 2 == remainder
  | Option.none => false

/-- Is one number a multiple of another? -/
def isMultiple (a b : Value) : Bool :=
  match a.coerce false b with
  | some (.ints i j) => j != 0 && i % j == 0
  | some (.floats x y) => Value.floatRemainder x y == 0.0
  | _ => false

/-- Is the value a whole number? -/
def isWhole : Value → Bool
  | .int _ => true
  | _ => false

/-- Is one value the same as another? A whole number is never the same as a float. -/
def isSame (a b : Value) : Bool :=
  a.kind = b.kind && isWhole a == isWhole b && a.equal b

/-- Do the arguments pass the test? -/
def passes (t : Test) (args : List Value) : Use Bool :=
  match t with
  | .undefined => ofKind Value.isUndefined args
  | .defined => ofKind (!·.isUndefined) args
  | .none => ofKind Value.isNone args
  | .safe => ofKind (fun | .str _ isSafe => isSafe | _ => false) args
  | .boolean => ofKind (·.kind = .bool) args
  | .odd => ofKind (hasParity 1) args
  | .even => ofKind (hasParity 0) args
  | .divisibleBy => ofPair isMultiple args
  | .number => ofKind (·.kind = .number) args
  | .integer => ofKind isWhole args
  | .float => ofKind (fun | .float _ => true | _ => false) args
  | .string => ofKind (·.kind = .string) args
  | .sequence => ofKind (·.kind = .seq) args
  | .iterable => ofKind (·.items?.isSome) args
  | .mapping => ofKind (·.kind = .map) args
  | .startingWith => ofTexts (fun s t => t.isPrefixOf s) args
  | .endingWith => ofTexts (fun s t => t.isSuffixOf s) args
  | .lower => ofText (fun s => s.toList.all Text.Case.isLower) args
  | .upper => ofText (fun s => s.toList.all Text.Case.isUpper) args
  | .sameAs => ofPair isSame args
  | .equal => ofPair Value.equal args
  | .unequal => ofPair (fun a b => !a.equal b) args
  | .less => ofPair (fun a b => a.compare b = .lt) args
  | .lessOrEqual => ofPair (fun a b => a.compare b != .gt) args
  | .greater => ofPair (fun a b => a.compare b = .gt) args
  | .greaterOrEqual => ofPair (fun a b => a.compare b != .lt) args
  | .isIn => do
    let (v, container) ← Taking.all (do return (← Taking.value, ← Taking.value)) args
    Use.accept container
    return (container.holds v).toOption.getD false
  | .isTrue => ofKind (fun | .bool b => b | _ => false) args
  | .isFalse => ofKind (fun | .bool b => !b | _ => false) args
  | .filter => ofText (fun s => (Filter.ofName? s).isSome) args
  | .test => ofText (fun s => (ofName? s).isSome) args

end Test

end TemplateCheck.Template
