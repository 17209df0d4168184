import TemplateCheck.Decimal.Shortest

/-!
# Number texts

The written forms of floating-point numbers. Every form shows the fewest digits that read
back; a `Style` says when they are written positionally and when with an exponent.

* `Style` — the decisions of one form;
* `Style.positional`, `Style.scientific`, `Style.interchange` — the forms that the library uses;
* `write` — a float in a style.
-/

namespace TemplateCheck.Decimal

/-! ### Styles -/

/-- How a float is written. A number `0.d₁d₂… · 10 ^ place` is written positionally when its
place lies within the bounds (an absent bound admits all), else with an exponent. -/
structure Style where
  least : Option Int
  most : Option Int
  infinity : String
  notANumber : String

/-- Always positional. -/
def Style.positional : Style where
  least := none
  most := none
  infinity := "inf"
  notANumber := "NaN"

/-- Positional from `0.0001` up to, but not including, `10 ^ 16`. -/
def Style.scientific : Style where
  least := some (-3)
  most := some 16
  infinity := "inf"
  notANumber := "NaN"

/-- Positional from `0.00001` up to, but not including, `10 ^ 16`; a value that is not finite
has no number text in a data interchange format and is written as an absent one. -/
def Style.interchange : Style where
  least := some (-4)
  most := some 16
  infinity := "null"
  notANumber := "null"

/-! ### Writing -/

/-- The decimal digits of a natural number. -/
def digitsOf (n : Nat) : List Char :=
  Nat.toDigits 10 n

/-- Digits with the point after `place` of them, padded with zeros on either side. -/
def pointed (digits : List Char) (place : Int) : List Char :=
  if place ≤ 0 then '0' :: '.' :: (List.replicate (-place).toNat '0' ++ digits)
  else
    let whole := place.toNat
    let fraction := digits.drop whole
    digits.take whole ++ List.replicate (whole - digits.length) '0' ++ '.'
      :: (if fraction.isEmpty then ['0'] else fraction)

/-- Digits with the point after the first of them and the exponent that goes with it. -/
def exponential (digits : List Char) (place : Int) : List Char :=
  let mantissa :=
    match digits with
    | [] => ['0']
    | [d] => [d]
    | d :: rest => d :: '.' :: rest
  mantissa ++ 'e' :: (toString (place - 1)).toList

/-- Is a number with its first digit in this place written positionally? -/
def Style.isPositional (style : Style) (place : Int) : Bool :=
  style.least.all (· ≤ place) && style.most.all (place ≤ ·)

/-- The text of a float in a style. -/
def write (style : Style) (f : Float) : String :=
  match Shape.ofFloat f with
  | .nan => style.notANumber
  | .infinite negative =>
    if negative && style.infinity != "null" then "-" ++ style.infinity else style.infinity
  | .finite negative m q =>
    let sign := if negative then "-" else ""
    if m == 0 then sign ++ "0.0"
    else
      let (d, e) := shortest m q
      let digits := digitsOf d
      let place := e + digits.length
      let body := if style.isPositional place then pointed digits place
        else exponential digits place
      sign ++ String.ofList body

end TemplateCheck.Decimal
