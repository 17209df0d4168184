import TemplateCheck.Json.Value
import TemplateCheck.Decimal.Read

/-!
# JSON numbers

Numbers off the front of a text.

A number without fraction and exponent that fits in 64 bits is whole. Every other number is a
float, scaled from at most 64 bits of its digits by powers of ten in floating-point
arithmetic: digits that would overflow are dropped and only counted.

* `scaleFloat` — the scaling;
* `number` — one number, with the text after it.
-/

namespace TemplateCheck.Json.Reader

/-! ### Scaling -/

/-- The bound below which the digits of a number are kept exactly. -/
def digitBound : Nat := Nat.pow 2 64

/-- The value of `f · 10 ^ exponent` by one multiplication or division, after as many divisions by
`10 ^ 308` as bring the exponent into range. A result beyond the largest float is refused. -/
def scaleFloat : Nat → Float → Int → Except DecodeFault Float
  | 0, _, _ => .ok 0.0
  | steps + 1, f, exponent =>
    if exponent.natAbs ≤ 308 then
      let power := Decimal.scale 1 exponent.natAbs
      if 0 ≤ exponent then
        let scaled := f * power
        if scaled.isInf then .error .malformed else .ok scaled
      else .ok (f / power)
    else if f == 0.0 then .ok f
    else if 0 ≤ exponent then .error .malformed
    else scaleFloat steps (f / Decimal.scale 1 308) (exponent + 308)

/-- The float of a sign, digits and an exponent. After five divisions by `10 ^ 308` nothing is
left of any digits. -/
def floatOf (negative : Bool) (digits : Nat) (exponent : Int) : Except DecodeFault Json := do
  let f ← scaleFloat 5 (Float.ofNat digits) (max exponent (-2000))
  return .float (if negative then -f else f)

/-! ### Parts of a number -/

/-- The digits at the front of a text, taken into `digits` as long as the result stays below
the bound: the digits, how many were taken, and the rest. -/
def takeDigits (digits count : Nat) : List Char → Nat × Nat × List Char
  | c :: cs =>
    if c.isDigit then
      let more := digits * 10 + (c.toNat - '0'.toNat)
      if more < digitBound then takeDigits more (count + 1) cs else (digits, count, c :: cs)
    else (digits, count, c :: cs)
  | [] => (digits, count, [])

/-- The number whose exponent begins after the letter `e`. -/
def exponent (negative : Bool) (digits : Nat) (start : Int) (cs : List Char) :
    Except DecodeFault (Json × List Char) := do
  let (down, cs) :=
    match cs with
    | '+' :: cs => (false, cs)
    | '-' :: cs => (true, cs)
    | cs => (false, cs)
  match cs with
  | [] => .error .endOfText
  | c :: _ =>
    if !c.isDigit then .error .malformed
    else
      let size := Decimal.natOfDigits (cs.takeWhile Char.isDigit)
      let rest := cs.dropWhile Char.isDigit
      if size < Nat.pow 2 31 then
        return (← floatOf negative digits (if down then start - size else start + size), rest)
      else if digits ≠ 0 ∧ !down then .error .malformed
      else return (.float (if negative then -0.0 else 0.0), rest)

/-- The number with `digits · 10 ^ start` read so far, at the end of its digits. -/
def afterDigits (negative : Bool) (digits : Nat) (start : Int) (cs : List Char) :
    Except DecodeFault (Json × List Char) :=
  match cs with
  | 'e' :: rest => exponent negative digits start rest
  | 'E' :: rest => exponent negative digits start rest
  | _ => do return (← floatOf negative digits start, cs)

/-- The number whose fraction begins after the point. -/
def fraction (negative : Bool) (digits : Nat) (start : Int) (cs : List Char) :
    Except DecodeFault (Json × List Char) :=
  let (more, count, rest) := takeDigits digits 0 cs
  let dropped := rest.takeWhile Char.isDigit
  if dropped.isEmpty then
    if count = 0 then .error (if rest.isEmpty then .endOfText else .malformed)
    else afterDigits negative more (start - count) rest
  else afterDigits negative more (start - count) (rest.dropWhile Char.isDigit)

/-- The number without its sign. -/
def unsigned (negative : Bool) : List Char → Except DecodeFault (Json × List Char)
  | [] => .error .endOfText
  | c :: cs =>
    if !c.isDigit then .error .malformed
    else
      let (digits, rest) :=
        if c == '0' then (0, cs)
        else
          let (digits, _, rest) := takeDigits 0 0 (c :: cs)
          (digits, rest)
      match rest with
      | '.' :: more => fraction negative digits 0 more
      | 'e' :: more => exponent negative digits 0 more
      | 'E' :: more => exponent negative digits 0 more
      | d :: _ =>
        if d.isDigit then
          if c == '0' then .error .malformed
          else
            let dropped := (rest.takeWhile Char.isDigit).length
            match rest.dropWhile Char.isDigit with
            | '.' :: more => fraction negative digits dropped more
            | after => afterDigits negative digits dropped after
        else whole digits rest
      | [] => whole digits rest
where
  /-- The number without fraction and exponent. -/
  whole (digits : Nat) (rest : List Char) : Except DecodeFault (Json × List Char) :=
    if !negative then .ok (.int digits, rest)
    else if digits = 0 ∨ digits > Nat.pow 2 63 then .ok (.float (-(Float.ofNat digits)), rest)
    else .ok (.int (-(digits : Int)), rest)

/-- The number at the front of a text. -/
def number : List Char → Except DecodeFault (Json × List Char)
  | '-' :: cs => unsigned true cs
  | cs => unsigned false cs

end TemplateCheck.Json.Reader
