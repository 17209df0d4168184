import TemplateCheck.Decimal.Read
import TemplateCheck.Json.Value
import TemplateCheck.Toml.Moment

/-!
# Values of TOML

Values, and the reading of those that are written without quotes and brackets.

* `Value` — a value of any kind;
* `ungrouped?` — digits with underscores between them;
* `int?`, `float?` — numbers;
* `scalar?` — any such value, from its whole text.
-/

namespace TemplateCheck.Toml

/-- A value. The entries of a table stand in ascending key order. -/
inductive Value where
  | text (s : String)
  /-- A whole number of any size. -/
  | int (i : Int)
  /-- A float; `none` is one that is written but too large. -/
  | float (f : Option Float)
  | bool (b : Bool)
  | moment (m : Moment)
  | array (items : List Value)
  | table (entries : List (String × Value))
deriving Inhabited

/-! ### Digits -/

/-- The digits of a text in which underscores may stand between two digits. -/
def ungrouped? (isDigit : Char → Bool) : List Char → Option (List Char)
  | [] => none
  | [c] => if isDigit c then some [c] else none
  | c :: '_' :: cs => if isDigit c then (ungrouped? isDigit cs).map (c :: ·) else none
  | c :: cs => if isDigit c then (ungrouped? isDigit cs).map (c :: ·) else none

/-- Digits that do not begin with a nought, unless they are one. -/
def decimal? (cs : List Char) : Option (List Char) :=
  (ungrouped? Char.isDigit cs).filter fun ds => ds.head? != some '0' || ds.length == 1

/-- The value of a digit. -/
def digitValue (c : Char) : Nat :=
  if c.isDigit then c.toNat - '0'.toNat
  else if c.isLower then c.toNat - 'a'.toNat + 10
  else c.toNat - 'A'.toNat + 10

/-- Is the character a digit of a base? -/
def isDigitOf (base : Nat) (c : Char) : Bool :=
  (c.isDigit || c.isLower || c.isUpper) && digitValue c < base

/-- The number that digits of a base stand for. -/
def naturalOf (base : Nat) (ds : List Char) : Nat :=
  ds.foldl (fun n c => n * base + digitValue c) 0

/-- The number that a text with digits of a base stands for. -/
def natural? (base : Nat) (cs : List Char) : Option Nat :=
  (ungrouped? (isDigitOf base) cs).map (naturalOf base)

/-! ### Numbers -/

/-- A sign, as a minus or not, and the text behind it. -/
def signed : List Char → Bool × List Char
  | '-' :: cs => (true, cs)
  | '+' :: cs => (false, cs)
  | cs => (false, cs)

/-- A whole number. One that is not decimal has no sign. -/
def int? (cs : List Char) : Option Int :=
  match cs with
  | '0' :: 'x' :: ds => (natural? 16 ds).map fun n => (n : Int)
  | '0' :: 'o' :: ds => (natural? 8 ds).map fun n => (n : Int)
  | '0' :: 'b' :: ds => (natural? 2 ds).map fun n => (n : Int)
  | cs =>
    let (negative, ds) := signed cs
    (decimal? ds).map fun ds =>
      let n := naturalOf 10 ds
      if negative then -(n : Int) else n

/-- The exponent behind its letter; there may be none. -/
def exponent? : List Char → Option Int
  | [] => some 0
  | _ :: cs =>
    let (negative, ds) := signed cs
    (ungrouped? Char.isDigit ds).map fun ds =>
      let n := naturalOf 10 ds
      if negative then -(n : Int) else n

/-- A float with digits: there is a fraction or an exponent, or both. -/
def numeral? (cs : List Char) : Option Decimal.Numeral := do
  let (negative, cs) := signed cs
  let mantissa := cs.takeWhile fun c => c != 'e' && c != 'E'
  let power := cs.drop mantissa.length
  let whole := mantissa.takeWhile (· != '.')
  let point := mantissa.drop whole.length
  if power.isEmpty && point.isEmpty then none
  else
    let ds ← decimal? whole
    let fraction ← if point.isEmpty then some [] else ungrouped? Char.isDigit (point.drop 1)
    let e ← exponent? power
    return ⟨negative, naturalOf 10 (ds ++ fraction), e - fraction.length⟩

/-- A float, or `none` within if it is too large for one. -/
def float? (cs : List Char) : Option (Option Float) :=
  let (negative, rest) := signed cs
  if rest = ['i', 'n', 'f'] then some (some (if negative then -(1.0 / 0.0) else 1.0 / 0.0))
  else if rest = ['n', 'a', 'n'] then some (some (0.0 / 0.0))
  else (numeral? cs).map fun n => some n.toFloat |>.filter Float.isFinite

/-! ### Scalars -/

/-- The value that a text without quotes and brackets stands for. -/
def scalar? (cs : List Char) : Option Value :=
  if cs = ['t', 'r', 'u', 'e'] then some (.bool true)
  else if cs = ['f', 'a', 'l', 's', 'e'] then some (.bool false)
  else
    match Moment.ofChars? cs, int? cs, float? cs with
    | some m, _, _ => some (.moment m)
    | none, some i, _ => some (.int i)
    | none, none, some f => some (.float f)
    | none, none, none => none

end TemplateCheck.Toml
