import TemplateCheck.Decimal.Read
import TemplateCheck.Template.Argument
import TemplateCheck.Text.Case
import TemplateCheck.Text.Pieces

/-!
# Text filters

Filters that turn the printed form of a value into another text. Each takes the filtered value
and the arguments of the filter in one list.

Where texts are escaped when they are printed, a text that is made of several ones is safe as soon
as one of them is; the others are then escaped when it is made.
-/

namespace TemplateCheck.Template.Filters

open Taking (one optional)

/-- Is the value a text that is not escaped any more? -/
def isSafe : Value → Bool
  | .str _ safe => safe
  | _ => false

/-- A filter that changes the printed form of a value. What is safe stays so if `keeping`. -/
def changing (keeping : Bool) (f : String → String) (args : List Value) : Use Value := do
  let v ← Taking.all (one Reading.any) args
  return .str (f v.text) (keeping && isSafe v)

/-- Is a text that is made of these values to be made of their escaped forms? -/
def mixes (vs : List Value) : Use Bool := fun rules =>
  .ok (rules.escaping && vs.any isSafe)

/-- The text, not to be escaped any more. -/
def safe (args : List Value) : Use Value := do
  let s ← Taking.all (one Reading.text) args
  return .str s true

/-- The text as it is written in a document. What is safe stays as it is. -/
def escape (args : List Value) : Use Value := do
  let v ← Taking.all Taking.value args
  match v with
  | .str s true => return .str s true
  | v => return .str (v.printed true) true

/-- The text without blanks, or without the given characters, at both ends. -/
def trim (args : List Value) : Use Value := do
  let (v, only) ← Taking.all (do return (← one Reading.any, ← optional Reading.text)) args
  let trimmed :=
    match only with
    | none => Text.trim v.text
    | some cs => Text.trimBy cs.toList.contains v.text
  return .str trimmed (isSafe v)

/-- The text with every occurrence of one text replaced by another. -/
def replace (args : List Value) : Use Value := do
  let (v, old, new) ←
    Taking.all (do return (← one Reading.any, ← one Reading.any, ← one Reading.any)) args
  let safe ← mixes [v, old, new]
  let parts := Text.splitAt (old.printed safe).toList (v.printed safe).toList
  return .str (String.ofList (List.intercalate (new.printed safe).toList parts)) safe

/-- Texts as a sequence. -/
def texts (kind : SeqKind) (parts : List (List Char)) : Value :=
  .seq kind (parts.map fun p => .ofString (String.ofList p))

/-- The pieces of a text between blanks or between occurrences of a separator, cut at most a
given number of times. -/
def split (args : List Value) : Use Value := do
  let (s, separator, cuts) ← Taking.all
    (do return (← one Reading.string, ← optional Reading.string, ← optional Reading.int64)) args
  let text := s.toList
  let limit := cuts.bind fun n => if 0 ≤ n then some (n.toNat + 1) else none
  match separator, limit with
  | none, none => return texts .stream (Text.words text)
  | none, some n => return texts .stream (Text.wordsUpTo n text)
  | some t, none => return texts .stream (Text.splitAt t.toList text)
  | some t, some n => return texts .stream (Text.upTo n t.toList (Text.splitAt t.toList text))

/-- The lines of a text. -/
def lines (args : List Value) : Use Value := do
  let s ← Taking.all (one Reading.string) args
  return texts .derived (Text.lines s.toList)

/-- How many blanks stand in front of a line unless told otherwise. -/
def indentWidth : Nat := 4

/-- A text without the line end behind it. -/
def withoutLineEnd (cs : List Char) : List Char :=
  let cs := if cs.getLast? = some '\n' then cs.dropLast else cs
  if cs.getLast? = some '\r' then cs.dropLast else cs

/-- A text with a margin in front of its lines: of the first one if `first`, and of empty ones if
`blank`. -/
def withMargin (margin : List Char) (first blank : Bool) (text : List Char) : List Char :=
  let indented (line : List Char) : List Char :=
    if line.isEmpty then (if blank then margin else []) else margin ++ line
  let lines :=
    match Text.pieces ['\n'] 0 (withoutLineEnd text) with
    | line :: rest => (if first then indented line else line) :: rest.map indented
    | [] => []
  withoutLineEnd (lines.flatMap (· ++ ['\n']))

/-- The text with blanks in front of its lines: not of the first one, and not of empty ones,
unless told so. -/
def indent (args : List Value) : Use Value := do
  let (keywords, v, width, first, blank) ← Taking.all
    (do return (← Taking.keywords, ← one Reading.any, ← optional Reading.nat,
      ← optional Reading.bool, ← optional Reading.bool)) args
  let (width, w) ← keywords.orGiven "width" Reading.nat width
  let (first, f) ← keywords.orGiven "first" Reading.bool first
  let (blank, b) ← keywords.orGiven "blank" Reading.bool blank
  keywords.only (w ++ f ++ b)
  let margin := List.replicate (width.getD indentWidth) ' '
  let text := withMargin margin (first.getD false) (blank.getD false) v.text.toList
  return .str (String.ofList text) (isSafe v)

/-- The value as a text. -/
def string (args : List Value) : Use Value := do
  let v ← Taking.all (one Reading.any) args
  match v with
  | .str s safe => return .str s safe
  | v => return .ofString v.text

/-- The value as it appears inside containers, over several lines. -/
def pretty (args : List Value) : Use Value := do
  let v ← Taking.all Taking.value args
  return .ofString v.pretty

/-- The printed items of a sequence with a text between each two. -/
def join (args : List Value) : Use Value := do
  let (v, joiner) ← Taking.all (do return (← Taking.value, ← optional Reading.any)) args
  if v.isUndefined || v.isNone then return .ofString ""
  else
    match v.items? with
    | none => Use.fail .invalidOperation
    | some items =>
      let joiner := joiner.getD (.ofString "")
      let safe ← mixes (joiner :: items)
      return .str (String.intercalate (joiner.printed safe) (items.map (·.printed safe))) safe

end TemplateCheck.Template.Filters
