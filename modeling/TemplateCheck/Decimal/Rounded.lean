import TemplateCheck.Decimal.Shortest

/-!
# Rounded decimals

Floats with a chosen number of digits. All roundings are exact, and a half goes to the even
neighbour.

* `rounded` — a float in units of a power of ten;
* `fixed` — with so many digits behind the point;
* `significant` — so many digits from the first one on;
* `scientific`, `general` — written with an exponent, and with one only where it helps.
-/

namespace TemplateCheck.Decimal

/-- The float `m · 2 ^ q` in units of `10 ^ exponent`. -/
def rounded (m : Nat) (q exponent : Int) : Nat :=
  let i := Interval.of m q
  let n := i.floor exponent
  if i.roundsUp n exponent then n + 1 else n

/-- Digits with zeros in front up to a number of them. -/
def padded (count n : Nat) : List Char :=
  let ds := Nat.toDigits 10 n
  List.replicate (count - ds.length) '0' ++ ds

/-- A whole part and a fraction, with a point between them if there is a fraction or if
`pointed`. -/
def joined (pointed : Bool) (whole fraction : List Char) : List Char :=
  if fraction.isEmpty && !pointed then whole else whole ++ '.' :: fraction

/-- The float `m · 2 ^ q` with so many digits behind the point. -/
def fixed (pointed : Bool) (places m : Nat) (q : Int) : List Char :=
  let ds := padded (places + 1) (rounded m q (-places))
  joined pointed (ds.take (ds.length - places)) (ds.drop (ds.length - places))

/-- So many digits of the float `m · 2 ^ q`, from the first one that is not zero, and the exponent
that belongs to that one. -/
def significant (count m : Nat) (q : Int) : Nat × Int :=
  if m = 0 then (0, 0)
  else
    let place := (Interval.of m q).place
    let n := rounded m q (place - count)
    if digitCount n > count then (n / 10, place) else (n, place - 1)

/-- An exponent with its sign and two digits at least. -/
def exponentText (letter : Char) (e : Int) : List Char :=
  letter :: (if e < 0 then '-' else '+') :: padded 2 e.natAbs

/-- Digits without the zeros at the end. -/
def withoutZeros (ds : List Char) : List Char :=
  (ds.reverse.dropWhile (· == '0')).reverse

/-- The float `m · 2 ^ q` with an exponent and so many digits behind the point. -/
def scientific (letter : Char) (pointed : Bool) (places m : Nat) (q : Int) : List Char :=
  let (n, e) := significant (places + 1) m q
  let ds := padded (places + 1) n
  joined pointed (ds.take 1) (ds.drop 1) ++ exponentText letter e

/-- The float `m · 2 ^ q` with so many digits from the first one on: with an exponent if it is less
than -4 or not less than the number of digits. The zeros at the end are left out unless `full`. -/
def general (letter : Char) (full : Bool) (count m : Nat) (q : Int) : List Char :=
  let count := max count 1
  let (n, e) := significant count m q
  let shorten (ds : List Char) : List Char := if full then ds else withoutZeros ds
  if e < -4 ∨ count ≤ e then
    let ds := padded count n
    joined full (ds.take 1) (shorten (ds.drop 1)) ++ exponentText letter e
  else
    let places := (count - 1 - e).toNat
    let ds := padded (places + 1) (rounded m q (-places))
    joined full (ds.take (ds.length - places)) (shorten (ds.drop (ds.length - places)))

end TemplateCheck.Decimal
