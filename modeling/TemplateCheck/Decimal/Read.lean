/-!
# Reading decimals

Decimal text to floating-point numbers, correctly rounded.

* `scale` — `digits · 10 ^ exponent` as a float;
* `Numeral` — sign, digits and exponent of a decimal numeral;
* `Numeral.ofChars?` — a numeral read from text;
* `float?` — a whole text as a float, with the names of the special values.
-/

namespace TemplateCheck.Decimal

/-! ### Scaling -/

/-- The float nearest to `digits · 10 ^ exponent`. A magnitude past the largest float is
infinite, one far below the least is zero; both are settled before the power is formed. -/
def scale (digits : Nat) (exponent : Int) : Float :=
  let place := (Nat.toDigits 10 digits).length + exponent
  if digits == 0 then 0.0
  else if place > 320 then 1.0 / 0.0
  else if place < -340 then 0.0
  else if exponent < 0 then Float.ofScientific digits true (-exponent).toNat
  else Float.ofScientific digits false exponent.toNat

/-- The number that a run of decimal digits stands for. -/
def natOfDigits (ds : List Char) : Nat :=
  ds.foldl (fun n c => n * 10 + (c.toNat - '0'.toNat)) 0

/-! ### Numerals -/

/-- A decimal numeral: `± digits · 10 ^ exponent`. -/
structure Numeral where
  negative : Bool
  digits : Nat
  exponent : Int
deriving Repr, DecidableEq

/-- The float nearest to a numeral. -/
def Numeral.toFloat (n : Numeral) : Float :=
  let f := scale n.digits n.exponent
  if n.negative then -f else f

/-- A leading sign: whether it is a minus, and the text after it. -/
def splitSign : List Char → Bool × List Char
  | '-' :: cs => (true, cs)
  | '+' :: cs => (false, cs)
  | cs => (false, cs)

/-- The exponent after the letter `e`, which must reach the end of the text. -/
def exponentOf? (cs : List Char) : Option Int :=
  let (negative, ds) := splitSign cs
  if ds.isEmpty || !ds.all Char.isDigit then none
  else some (if negative then -(natOfDigits ds : Int) else natOfDigits ds)

/-- A numeral: a sign, digits with at most one point among them, and an exponent; there must
be a digit before the exponent. -/
def Numeral.ofChars? (cs : List Char) : Option Numeral :=
  let (negative, cs) := splitSign cs
  let whole := cs.takeWhile Char.isDigit
  let cs := cs.dropWhile Char.isDigit
  let (fraction, cs) :=
    match cs with
    | '.' :: rest => (rest.takeWhile Char.isDigit, rest.dropWhile Char.isDigit)
    | cs => ([], cs)
  if whole.isEmpty && fraction.isEmpty then none
  else
    let digits := natOfDigits (whole ++ fraction)
    match cs with
    | [] => some ⟨negative, digits, -(fraction.length : Int)⟩
    | c :: rest =>
      if c == 'e' || c == 'E' then
        (exponentOf? rest).map fun e => ⟨negative, digits, e - fraction.length⟩
      else none

/-- The float that a text names: a numeral, or one of the words for infinity and not a number
in any case, each with an optional sign. -/
def float? (s : String) : Option Float :=
  let (negative, cs) := splitSign s.toList
  let word := String.ofList (cs.map Char.toLower)
  if word == "inf" || word == "infinity" then
    some (if negative then -(1.0 / 0.0) else 1.0 / 0.0)
  else if word == "nan" then some (0.0 / 0.0)
  else (Numeral.ofChars? s.toList).map Numeral.toFloat

end TemplateCheck.Decimal
