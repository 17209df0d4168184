import TemplateCheck.Template.Filter.Format
import TemplateCheck.Template.Filter.Number
import TemplateCheck.Template.Filter.Sequence
import TemplateCheck.Template.Filter.Text
import TemplateCheck.Template.Test

/-!
# Running filters

* `Filters.chosen` — the items of a value that pass a test;
* `Filters.parts` — a part of each item;
* `Filter.apply` — the value that a filter makes of its arguments, the first of which is the
  filtered value.
-/

namespace TemplateCheck.Template

namespace Filters

open Taking (one optional)

/-- The items of a value that pass a test or, if `inverted`, fail it. Without a test an item has
to count as true. If there is a `path`, the part there is tested. -/
def chosen (inverted : Bool) (v : Value) (path : Option String) (name : Option String)
    (more : List Value) : Use Value := do
  let test? ←
    match name with
    | none => pure none
    | some name =>
      match Test.ofName? name with
      | some t => pure (some t)
      | none => Use.fail .unknownTest
  let items ← Use.itemsOf v
  let kept ← items.filterM fun item => do
    let part ←
      match path with
      | none => pure item
      | some path => Use.of (item.atPath path)
    let passed ←
      match test? with
      | none => pure part.isTrue
      | some t => t.passes (part :: more)
    return passed != inverted
  return .ofList kept

/-- The items that pass a test. -/
def select (inverted : Bool) (args : List Value) : Use Value := do
  let (v, name, more) ← Taking.all
    (do return (← Taking.value, ← optional Reading.text, ← Taking.others)) args
  chosen inverted v none name more

/-- The items of which a part passes a test. -/
def selectAttr (inverted : Bool) (args : List Value) : Use Value := do
  let (v, path, name, more) ← Taking.all
    (do return (← Taking.value, ← one Reading.text, ← optional Reading.text, ← Taking.others))
    args
  chosen inverted v (some path) name more

/-- A part of an item under a key: what is under it, or the default, if there is one. -/
def partOr (default : Option Value) (key item : Value) : Value.Outcome :=
  let found :=
    match key.text? with
    | some path => item.atPath path
    | none => item.itemOf key
  match found, default with
  | .ok part, _ => .ok (if part.isUndefined then default.getD (.undefined false) else part)
  | .error _, some v => if v.isUndefined then found else .ok v
  | .error kind, none => .error kind

/-- A part of each item; keywords give its place and a default. -/
def parts (v key : Value) (keywords : Keywords) : Use Value := do
  let default := keywords.find? "default"
  let items ← Use.itemsOf v
  let found ← items.mapM fun item => Use.of (partOr default key item)
  keywords.only ["attribute", "default"]
  return .ofList found

end Filters

namespace Filter

/-- The value that a filter makes of its arguments; `nested` runs the filter named by an
argument. -/
def run (nested : Filter → List Value → Use Value) : Filter → List Value → Use Value
  | .safe, args => Filters.safe args
  | .escape, args => Filters.escape args
  | .lower, args => Filters.changing true Text.Case.lower args
  | .upper, args => Filters.changing true Text.Case.upper args
  | .title, args => Filters.changing false Text.Case.title args
  | .capitalize, args => Filters.changing true Text.Case.capitalize args
  | .trim, args => Filters.trim args
  | .replace, args => Filters.replace args
  | .split, args => Filters.split args
  | .lines, args => Filters.lines args
  | .indent, args => Filters.indent args
  | .string, args => Filters.string args
  | .pretty, args => Filters.pretty args
  | .format, args => Filters.format args
  | .join, args => Filters.join args
  | .length, args => Filters.length args
  | .round, args => Filters.round args
  | .abs, args => Filters.abs args
  | .int, args => Filters.int args
  | .float, args => Filters.float args
  | .bool, args => Filters.bool args
  | .sum, args => Filters.sum args
  | .default, args => Filters.default args
  | .attr, args => Filters.attr args
  | .first, args => Filters.first args
  | .last, args => Filters.last args
  | .least, args => Filters.least args
  | .greatest, args => Filters.greatest args
  | .list, args => Filters.list args
  | .reverse, args => Filters.reverse args
  | .items, args => Filters.items args
  | .chain, args => Filters.chain args
  | .zip, args => Filters.zip args
  | .sort, args => Filters.sort args
  | .dictSort, args => Filters.dictSort args
  | .unique, args => Filters.unique args
  | .groupBy, args => Filters.groupBy args
  | .batch, args => Filters.batch args
  | .slice, args => Filters.slice args
  | .select, args => Filters.select false args
  | .reject, args => Filters.select true args
  | .selectAttr, args => Filters.selectAttr false args
  | .rejectAttr, args => Filters.selectAttr true args
  | .map, args => do
    let (v, more) ← Taking.all (do return (← Taking.value, ← Taking.others)) args
    let (more, keywords) := Keywords.split more
    match ← keywords.get? "attribute" Reading.any with
    | some key => if more.isEmpty then Filters.parts v key keywords else Use.fail .tooManyArguments
    | none =>
      match more with
      | [] => Use.fail .invalidOperation
      | name :: more =>
        match name.text? with
        | none => Use.fail .invalidOperation
        | some name =>
          match ofName? name with
          | none => Use.fail .unknownFilter
          | some filter =>
            let items ← Use.itemsOf v
            return .ofList (← items.mapM fun item => nested filter (item :: more))

/-- The value that a filter makes of its arguments, if a filter named by one of them may name
another only so often. -/
def applyWithin : Nat → Filter → List Value → Use Value
  | 0, _, _ => Use.fail .invalidOperation
  | depth + 1, filter, args => run (applyWithin depth) filter args

/-- The value that a filter makes of its arguments. Each filter named by an argument takes one
argument away, so their number bounds the nesting. -/
def apply (filter : Filter) (args : List Value) : Use Value :=
  applyWithin (args.length + 1) filter args

end Filter

end TemplateCheck.Template
