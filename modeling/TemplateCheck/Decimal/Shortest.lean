/-!
# Shortest decimals

The fewest decimal digits that read back as a given binary floating-point number.

* `Shape` — a float taken apart: not a number, infinite, or `± mantissa · 2 ^ exponent`;
* `Shape.ofFloat` — the shape of a float, read off its bits;
* `Interval` — the reals that round to a positive float;
* `shortest` — the digits: the coarsest decimal grid with a point in the interval, and on
  that grid the point nearest to the float.

If a point of a decimal grid lies in the interval, then so does one of the two grid points
next to the float itself, so two candidates for each digit count are enough.
-/

namespace TemplateCheck.Decimal

/-! ### Floats taken apart -/

/-- A float as sign, mantissa and binary exponent. -/
inductive Shape where
  /-- Not a number. -/
  | nan
  /-- An infinity. -/
  | infinite (negative : Bool)
  /-- The number `± mantissa · 2 ^ exponent`. -/
  | finite (negative : Bool) (mantissa : Nat) (exponent : Int)
deriving Repr, DecidableEq

/-- The shape of a float, from the three fields of its bits. -/
def Shape.ofFloat (f : Float) : Shape :=
  let bits : Nat := f.toBits.toNat
  let negative := bits / Nat.pow 2 63 == 1
  let field : Nat := bits / Nat.pow 2 52 % Nat.pow 2 11
  let fraction : Nat := bits % Nat.pow 2 52
  if field == 2047 then
    if fraction == 0 then .infinite negative else .nan
  else if field == 0 then .finite negative fraction (-1074)
  else .finite negative (Nat.pow 2 52 + fraction) ((field : Int) - 1075)

/-! ### The interval of a float -/

/-- The reals that round to `mid / den`: those between `low / den` and `high / den`, with
the two ends when `closed` holds. -/
structure Interval where
  low : Nat
  mid : Nat
  high : Nat
  den : Nat
  closed : Bool
deriving Repr, DecidableEq

/-- The interval of `m · 2 ^ q`. Half the distance to the next float belongs to it on either
side; below a power of two the next float is twice as near. -/
def Interval.of (m : Nat) (q : Int) : Interval :=
  let up := Nat.pow 2 (q - 2).toNat
  let below := if m == Nat.pow 2 52 && q > -1074 then 1 else 2
  { low := (4 * m - below) * up
    mid := 4 * m * up
    high := (4 * m + 2) * up
    den := Nat.pow 2 (2 - q).toNat
    closed := m % 2 == 0 }

/-- Does `digits · 10 ^ exponent` lie in the interval? -/
def Interval.has (i : Interval) (digits : Nat) (exponent : Int) : Bool :=
  let value := digits * Nat.pow 10 exponent.toNat * i.den
  let scale := Nat.pow 10 (-exponent).toNat
  let low := i.low * scale
  let high := i.high * scale
  if i.closed then low ≤ value && value ≤ high else low < value && value < high

/-- The whole part of the float in units of `10 ^ exponent`. -/
def Interval.floor (i : Interval) (exponent : Int) : Nat :=
  (i.mid * Nat.pow 10 (-exponent).toNat) / (i.den * Nat.pow 10 exponent.toNat)

/-- Is the grid point `digits + 1` nearer to the float than `digits`? A tie goes to the even
one of the two. -/
def Interval.roundsUp (i : Interval) (digits : Nat) (exponent : Int) : Bool :=
  let twice := 2 * i.mid * Nat.pow 10 (-exponent).toNat
  let middle := (2 * digits + 1) * (i.den * Nat.pow 10 exponent.toNat)
  middle < twice || (middle == twice && digits % 2 == 1)

/-! ### The search -/

/-- The number of decimal digits of `n`, at least one. -/
def digitCount (n : Nat) : Nat :=
  (Nat.toDigits 10 n).length

/-- The place `k` of the first digit of the float: it is at least `10 ^ (k - 1)` and less than
`10 ^ k`. -/
def Interval.place (i : Interval) : Int :=
  if i.den ≤ i.mid then digitCount (i.mid / i.den)
  else
    -- `e` zeros follow the point before the first digit
    let e := digitCount (i.den / i.mid)
    if i.den ≤ i.mid * Nat.pow 10 (e - 1) then 2 - (e : Int) else 1 - (e : Int)

/-- The digits and exponent without trailing zeros. -/
def dropZeros : Nat → Nat → Int → Nat × Int
  | 0, digits, exponent => (digits, exponent)
  | fuel + 1, digits, exponent =>
    if digits ≠ 0 ∧ digits % 10 = 0 then dropZeros fuel (digits / 10) (exponent + 1)
    else (digits, exponent)

/-- The first hit on the grids of `count`, `count + 1`, … digits, `left` grids in all. -/
def Interval.search (i : Interval) (place : Int) (count : Nat) : Nat → Nat × Int
  | 0 => (i.floor (place - count), place - count)
  | left + 1 =>
    let exponent := place - count
    let digits := i.floor exponent
    let lower := i.has digits exponent && digits != 0
    let upper := i.has (digits + 1) exponent
    if lower && upper then
      (if i.roundsUp digits exponent then digits + 1 else digits, exponent)
    else if lower then (digits, exponent)
    else if upper then (digits + 1, exponent)
    else i.search place (count + 1) left

/-- The fewest digits `d` and the exponent `e` such that `d · 10 ^ e` reads back as the
positive float `m · 2 ^ q`. Seventeen digits always do. -/
def shortest (m : Nat) (q : Int) : Nat × Int :=
  let i := Interval.of m q
  let (digits, exponent) := i.search i.place 1 17
  dropZeros 20 digits exponent

end TemplateCheck.Decimal
