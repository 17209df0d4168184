import TemplateCheck.Decimal.Read
import TemplateCheck.Template.Argument

/-!
# Number filters

Filters that yield numbers. Each takes the filtered value and the arguments of the filter in one
list.
-/

namespace TemplateCheck.Template.Filters

open Taking (optional)

/-- A float rounded to a number of places, a half away from zero; a whole number as it is. -/
def round (args : List Value) : Use Value := do
  let (v, places) ← Taking.all (do return (← Taking.value, ← optional Reading.int32)) args
  match v with
  | .int i => return .int i
  | .float f =>
    let scale := Float.pow 10 (Float.ofInt (places.getD 0))
    return .float ((scale * f).round / scale)
  | _ => Use.fail .invalidOperation

/-- The size of a number. -/
def abs (args : List Value) : Use Value := do
  match ← Taking.all Taking.value args with
  | .int i => Use.of (if i < 0 then Value.whole (-i) else .ok (.int i))
  | .float f => return .float f.abs
  | _ => Use.fail .invalidOperation

/-- The whole part of a float, at most as large as 128 bits with a sign allow. -/
def wholeOf (f : Float) : Int :=
  let most := Value.intBound - 1
  if f.isNaN then 0
  else if f.isInf then if f < 0 then -Value.intBound else most
  else max (-Value.intBound) (min most (Value.truncate f))

/-- The whole number that a text of decimal digits with or without a sign stands for. -/
def int? (s : String) : Option Int :=
  let (negative, digits) := Decimal.splitSign s.toList
  if digits.isEmpty || !digits.all Char.isDigit then none
  else
    let n : Int := Decimal.natOfDigits digits
    let i := if negative then -n else n
    if -Value.intBound ≤ i ∧ i < Value.intBound then some i else none

/-- The whole number that a value stands for; a text is read as a number. -/
def int (args : List Value) : Use Value := do
  match ← Taking.all Taking.value args with
  | .undefined _ => return .int 0
  | .none => return .int 0
  | .bool b => return .int (if b then 1 else 0)
  | .int i => return .int i
  | .float f => return .int (wholeOf f)
  | .str s _ =>
    match int? s, Decimal.float? s with
    | some i, _ => return .int i
    | none, some f => return .int (wholeOf f)
    | none, none => Use.fail .invalidOperation
  | _ => Use.fail .invalidOperation

/-- The float that a value stands for; a text is read as a number. -/
def float (args : List Value) : Use Value := do
  match ← Taking.all (Taking.one Reading.any) args with
  | .undefined _ => return .float 0
  | .none => return .float 0
  | .str s _ =>
    match Decimal.float? s with
    | some f => return .float f
    | none => Use.fail .invalidOperation
  | v =>
    match v.toFloat? true with
    | some f => return .float f
    | none => Use.fail .invalidOperation

/-- Does the value count as true? -/
def bool (args : List Value) : Use Value := do
  let v ← Taking.all Taking.value args
  return .bool v.isTrue

/-- The number of items of a container or of characters of a text. -/
def length (args : List Value) : Use Value := do
  let v ← Taking.all Taking.value args
  match v.length? with
  | some n => return .ofNat n
  | none => Use.fail .invalidOperation

/-- The sum of the numbers in a sequence. What is undefined is left out. -/
def sum (args : List Value) : Use Value := do
  let items ← Use.itemsOf (← Taking.all Taking.value args)
  items.foldlM (fun total item =>
    if item.isUndefined then return total
    else if item.kind = .number then Use.of (total.add item)
    else Use.fail .invalidOperation) (.int 0)

end TemplateCheck.Template.Filters
