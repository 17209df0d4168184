import TemplateCheck.Decimal.Format
import TemplateCheck.Template.Value.Basic
import TemplateCheck.Text.VisibleTable

/-!
# Values as text

* `Text.Quoted.quote` — a text between double quotes, on one line, with every character that
  cannot be shown by itself written as an escape;
* `Value.text` — a value as it is printed: texts as they are, everything inside a container in
  its shown form;
* `Value.shown` — a value as it appears inside a container: texts are quoted;
* `Value.pretty` — the shown form over several lines;
* `escapeHtml` — a text for use in a document.
-/

namespace TemplateCheck.Text.Quoted

/-- Is the code point in one of the ranges? -/
def inRange (ranges : List (Nat × Nat)) (n : Nat) : Bool :=
  ranges.any fun (first, last) => first ≤ n && n ≤ last

/-- Can the character be shown by itself? -/
def isVisible (c : Char) : Bool :=
  let n := c.toNat
  if n < 128 then 0x20 ≤ n && n < 0x7F
  else !inRange hiddenRanges n && !inRange extendRanges n

/-- The digits of a number in base 16, in lower case. -/
def hex (n : Nat) : List Char :=
  Nat.toDigits 16 n

/-- The written form of a character. -/
def escape (c : Char) : List Char :=
  if c = '\x00' then ['\\', '0']
  else if c = '\t' then ['\\', 't']
  else if c = '\r' then ['\\', 'r']
  else if c = '\n' then ['\\', 'n']
  else if c = '\\' ∨ c = '"' then ['\\', c]
  else if isVisible c then [c]
  else ['\\', 'u', '\x7b'] ++ hex c.toNat ++ ['\x7d']

/-- A text between quotes. -/
def quote (s : String) : String :=
  String.ofList ('"' :: s.toList.flatMap escape ++ ['"'])

end TemplateCheck.Text.Quoted

namespace TemplateCheck.Template

namespace Value

/-- A float as it is printed: never with an exponent, always with a point. -/
def floatText (f : Float) : String :=
  if f.isNaN then "NaN"
  else if f.isInf then if f < 0 then "-inf" else "inf"
  else Decimal.write .positional f

/-- A float inside a container: very large and very small ones have an exponent. -/
def floatShown (f : Float) : String :=
  if f.isNaN then "NaN"
  else if f.isInf then if f < 0 then "-inf" else "inf"
  else Decimal.write .scientific f

/-- What stands for something that lives in the machine. -/
def Ref.text : Ref → String
  | .routine _ name => "<macro " ++ name ++ ">"
  | .record _ => "\x7b\x7d"
  | .loop _ => "<loop>"
  | .function name => name

/-- What stands for items that come one by one. -/
def streamText : String := "<iterator>"

/-- A truth value as it is printed. -/
def boolText (b : Bool) : String := if b then "True" else "False"

/-- Texts with a comma between each two. -/
def commas : List String → String
  | [] => ""
  | [s] => s
  | s :: t :: rest => s ++ ", " ++ commas (t :: rest)

mutual

/-- A value as it appears inside a container. -/
def shown : Value → String
  | .undefined _ => "undefined"
  | .none => "None"
  | .bool b => boolText b
  | .int i => toString i
  | .float f => floatShown f
  | .str s _ => Text.Quoted.quote s
  | .seq .stream _ => streamText
  | .seq _ items => "[" ++ commas (shownItems items) ++ "]"
  | .map (.titled s) _ => s
  | .map _ entries => "\x7b" ++ commas (shownEntries entries) ++ "\x7d"
  | .object ref => Ref.text ref

/-- The items of a list as they appear in it. -/
def shownItems : List Value → List String
  | [] => []
  | v :: vs => shown v :: shownItems vs

/-- The entries of a map as they appear in it. -/
def shownEntries : List (Value × Value) → List String
  | [] => []
  | (k, v) :: rest => (shown k ++ ": " ++ shown v) :: shownEntries rest

end

/-- A value as it is printed. -/
def text : Value → String
  | .undefined _ => ""
  | .float f => floatText f
  | .str s _ => s
  | v => shown v

/-- A text with four blanks in front of each line but the first. -/
def indented (s : String) : String :=
  String.ofList (s.toList.flatMap fun c => if c == '\n' then "\n    ".toList else [c])

/-- The lines of a container with these parts between its brackets. -/
def lines (opening closing : String) (parts : List String) : String :=
  if parts.isEmpty then opening ++ closing
  else
    opening ++ "\n" ++ String.join (parts.map fun p => "    " ++ indented p ++ ",\n") ++ closing

mutual

/-- The shown form over several lines. -/
def pretty : Value → String
  | .seq .stream _ => streamText
  | .seq _ items => lines "[" "]" (prettyItems items)
  | .map (.titled s) _ => s
  | .map _ entries => lines "\x7b" "\x7d" (prettyEntries entries)
  | v => shown v

/-- The items of a list, each over several lines. -/
def prettyItems : List Value → List String
  | [] => []
  | v :: vs => pretty v :: prettyItems vs

/-- The entries of a map, each over several lines. -/
def prettyEntries : List (Value × Value) → List String
  | [] => []
  | (k, v) :: rest => (pretty k ++ ": " ++ pretty v) :: prettyEntries rest

end

end Value

/-! ### Escaping -/

/-- The written form of a character in a document. -/
def escapeChar (c : Char) : List Char :=
  if c = '<' then "&lt;".toList
  else if c = '>' then "&gt;".toList
  else if c = '&' then "&amp;".toList
  else if c = '"' then "&quot;".toList
  else if c = '\x27' then "&#x27;".toList
  else if c = '/' then "&#x2f;".toList
  else [c]

/-- A text for use in a document. -/
def escapeHtml (s : String) : String :=
  String.ofList (s.toList.flatMap escapeChar)

/-- A value as it is printed, escaped if `escaping` unless it is safe. -/
def Value.printed (escaping : Bool) (v : Value) : String :=
  if escaping then
    match v with
    | .str s safe => if safe then s else escapeHtml s
    | .seq _ _ => escapeHtml v.text
    | .map _ _ => escapeHtml v.text
    | .object _ => escapeHtml v.text
    | v => v.text
  else v.text

end TemplateCheck.Template
