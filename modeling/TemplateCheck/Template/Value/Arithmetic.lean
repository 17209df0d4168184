import TemplateCheck.Template.Value.Text

/-!
# Arithmetic

The operators of template expressions on values.

* `Value.add`, `Value.subtract`, `Value.multiply`, `Value.divide`, `Value.floorDivide`,
  `Value.modulo`, `Value.power`, `Value.negate` — numbers, and for some of them texts and
  sequences;
* `Value.concat` — the printed forms of two values, one after the other.

Results of whole-number operations have at most 128 bits; an operation that would go beyond
that, and one on values of the wrong kind, is invalid.
-/

namespace TemplateCheck.Template.Value

/-- The outcome of an operation: a value, or what went wrong. -/
abbrev Outcome := Except FaultKind Value

/-- An operation that is not possible. -/
def invalid {α : Type} : Except FaultKind α := .error .invalidOperation

/-- A whole number as a result, if it fits. -/
def whole (i : Int) : Outcome :=
  match ofInt? i with
  | some v => .ok v
  | Option.none => invalid

/-- An operation on two numbers of one kind. -/
def numeric (ints : Int → Int → Outcome) (floats : Float → Float → Float) (a b : Value) :
    Outcome :=
  match coerce true a b with
  | some (.ints i j) => ints i j
  | some (.floats x y) => .ok (.float (floats x y))
  | _ => invalid

/-- The items of a sequence. -/
def seqItems? : Value → Option (List Value)
  | .seq _ items => some items
  | _ => Option.none

/-- How a sequence is made that is computed from another value. -/
def derivedKind : Value → SeqKind
  | .seq .stream _ => .stream
  | _ => .derived

/-- The sum `a + b`: numbers are added, texts and sequences are joined. -/
def add (a b : Value) : Outcome :=
  match seqItems? a, seqItems? b with
  | some items, some more =>
    let kind := if derivedKind a = .stream then .stream else derivedKind b
    .ok (.seq kind (items ++ more))
  | _, _ =>
    match coerce true a b with
    | some (.ints i j) => whole (i + j)
    | some (.floats x y) => .ok (.float (x + y))
    | some (.texts s t) => .ok (ofString (s ++ t))
    | Option.none => invalid

/-- The difference `a - b`. -/
def subtract : Value → Value → Outcome :=
  numeric (fun i j => whole (i - j)) (· - ·)

/-- A list repeated a number of times. -/
def repeated (n : Nat) (items : List α) : List α :=
  (List.replicate n items).flatten

/-- The product `a * b`: numbers are multiplied; a text or sequence is repeated, but not one whose
length is not known. -/
def multiply (a b : Value) : Outcome :=
  let textTimes (s : String) (n : Value) : Outcome :=
    match n.toNat? with
    | some n => .ok (ofString (String.ofList (repeated n s.toList)))
    | Option.none => invalid
  let itemsTimes (items : List Value) (n : Value) : Outcome :=
    match n.toNat? with
    | some n => .ok (.seq .derived (repeated n items))
    | Option.none => invalid
  match a, b with
  | .str s _, n => textTimes s n
  | n, .str s _ => textTimes s n
  | .seq .stream _, _ => invalid
  | .seq _ items, n => itemsTimes items n
  | _, .seq .stream _ => invalid
  | n, .seq _ items => itemsTimes items n
  | a, b => numeric (fun i j => whole (i * j)) (· * ·) a b

/-- The quotient `a / b`, always a float. -/
def divide (a b : Value) : Outcome :=
  match a.toFloat? true, b.toFloat? true with
  | some x, some y => .ok (.float (x / y))
  | _, _ => invalid

/-- A float without its fraction. -/
def wholePart (f : Float) : Float :=
  if f < 0 then f.ceil else f.floor

/-- The remainder of a division of floats, with the sign of the dividend. It is computed
exactly, on whole multiples of a common power of two. -/
def floatRemainder (x y : Float) : Float :=
  if x.isNaN || y.isNaN || x.isInf || y == 0.0 then 0.0 / 0.0
  else if y.isInf || x == 0.0 then x
  else
    let parts (f : Float) : Nat × Nat :=
      let bits := f.toBits.toNat % Nat.pow 2 63
      let exponent := bits / Nat.pow 2 52
      if exponent = 0 then (bits, 0) else (Nat.pow 2 52 + bits % Nat.pow 2 52, exponent - 1)
    let (m, p) := parts x
    let (n, q) := parts y
    let base := min p q
    let rest := m * Nat.pow 2 (p - base) % (n * Nat.pow 2 (q - base))
    -- `rest · 2 ^ (base - 1074)` is exactly a float, for it is smaller than `y` in size
    let size :=
      if base ≥ 1074 then Float.ofNat (rest * Nat.pow 2 (base - 1074))
      else (Float.ofNat rest).scaleB ((base : Int) - 1074)
    if x.toBits.toNat < Nat.pow 2 63 then size else -size

/-- The whole quotient `a // b`, for which the remainder is not negative. -/
def floorDivide : Value → Value → Outcome :=
  numeric (fun i j => if j = 0 then invalid else whole (i / j)) fun x y =>
    let q := wholePart (x / y)
    if floatRemainder x y < 0 then (if y > 0 then q - 1 else q + 1) else q

/-- The remainder `a % b`: of whole numbers the one that is not negative, of floats the one with
the sign of the dividend. -/
def modulo : Value → Value → Outcome :=
  numeric (fun i j => if j = 0 then invalid else whole (i % j)) floatRemainder

/-- A power of a whole number, if no power on the way goes beyond 128 bits. -/
def intPower (base : Int) (exponent : Nat) : Outcome :=
  if base.natAbs ≤ 1 then
    .ok (.int (if exponent = 0 then 1 else if base = -1 ∧ exponent % 2 = 0 then 1 else base))
  else if exponent ≥ 128 then invalid
  else whole (Int.pow base exponent)

/-- The power `a ** b`: of whole numbers only with an exponent of 32 bits that is not negative. -/
def power : Value → Value → Outcome :=
  numeric (fun i j => if j < 0 ∨ Nat.pow 2 32 ≤ j then invalid else intPower i j.toNat) Float.pow

/-- The negative `-a`. The number after the largest one has no negative and stays. -/
def negate : Value → Outcome
  | .float f => .ok (.float (-f))
  | .int i =>
    if i = intBound then .ok (.int i) else if i < intBound then whole (-i) else invalid
  | _ => invalid

/-- The joined text `a ~ b`. -/
def concat (a b : Value) : Value :=
  ofString (a.text ++ b.text)

end TemplateCheck.Template.Value
