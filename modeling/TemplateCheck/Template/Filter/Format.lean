import TemplateCheck.Decimal.Rounded
import TemplateCheck.Template.Filter.Text

/-!
# Formatting by a pattern

A text with places for values: a percent sign, flags, a width, a precision and a letter that
says how the value is written.

* `Place` — one such place, `Place.ofChars?` reads it;
* `Place.fill` — the text that a value has there;
* `format` — the filter that fills the places of a text one after the other.

Widths count bytes. In a safe pattern, texts are escaped where texts are escaped when they are
printed.
-/

namespace TemplateCheck.Template.Filters

/-! ### Places -/

/-- A place for a value. -/
structure Place where
  /-- Fill up at the end. -/
  left : Bool
  /-- Fill up with zeros. -/
  zeros : Bool
  /-- Write the sign of a number that is not negative. -/
  plus : Bool
  /-- Write a blank in place of that sign. -/
  blank : Bool
  /-- Write the base of a whole number and the point of a float in any case. -/
  full : Bool
  width : Nat
  precision : Option Nat
  letter : Char

/-- A number at the front of a text, and what follows it. -/
def numberAt (cs : List Char) : Nat × List Char :=
  let digits := cs.takeWhile Char.isDigit
  (digits.foldl (fun n c => n * 10 + (c.toNat - '0'.toNat)) 0, cs.dropWhile Char.isDigit)

/-- The place after a percent sign, and what follows it. -/
def Place.ofChars? (cs : List Char) : Option (Place × List Char) :=
  let isFlag (c : Char) : Bool := ['-', '0', '+', ' ', '#'].contains c
  let flags := cs.takeWhile isFlag
  let (width, rest) := numberAt (cs.dropWhile isFlag)
  let (precision, rest) :=
    match rest with
    | '.' :: more =>
      let (n, rest) := numberAt more
      (some n, rest)
    | rest => (none, rest)
  match rest with
  | [] => none
  | letter :: rest =>
    some (⟨flags.contains '-', flags.contains '0', flags.contains '+', flags.contains ' ',
      flags.contains '#', width, precision, letter⟩, rest)

/-! ### Filling up -/

/-- A text filled up to the width of its place with blanks. -/
def Place.padded (p : Place) (s : String) : String :=
  let blanks := String.ofList (List.replicate (p.width - s.utf8ByteSize) ' ')
  if p.left then s ++ blanks else blanks ++ s

/-- A text behind a sign, filled up to the width of its place: zeros stand between the two. -/
def Place.signed (p : Place) (sign body : String) : String :=
  if p.zeros && !p.left then
    let missing := p.width - sign.utf8ByteSize - body.utf8ByteSize
    sign ++ String.ofList (List.replicate missing '0') ++ body
  else p.padded (sign ++ body)

/-- The sign of a number. -/
def Place.sign (p : Place) (negative : Bool) : String :=
  if negative then "-" else if p.plus then "+" else if p.blank then " " else ""

/-! ### Numbers -/

/-- A whole number to a base that has a name. -/
def Place.whole (p : Place) (base : Nat) (upper : Bool) (name : String) (i : Int) : String :=
  let ds := Nat.toDigits base i.natAbs
  let ds := if upper then ds.map Char.toUpper else ds
  let missing := p.precision.getD 1 - ds.length
  p.signed (p.sign (i < 0) ++ (if p.full then name else ""))
    (String.ofList (List.replicate missing '0' ++ ds))

/-- The digits behind the point of a float unless told otherwise. -/
def usualPrecision : Nat := 6

/-- How a float is written. -/
inductive FloatForm where
  | fixed
  | scientific
  | general
deriving Repr, DecidableEq

/-- The text of a positive finite float. -/
def Place.floatBody (p : Place) (form : FloatForm) (upper : Bool) (m : Nat) (q : Int) : String :=
  let precision := p.precision.getD usualPrecision
  let letter := if upper then 'E' else 'e'
  String.ofList <|
    match form with
    | .fixed => Decimal.fixed p.full precision m q
    | .scientific => Decimal.scientific letter p.full precision m q
    | .general => Decimal.general letter p.full precision m q

/-- A float in its place. One that is not finite is not filled up with zeros. -/
def Place.float (p : Place) (form : FloatForm) (upper : Bool) (f : Float) : String :=
  let cased (s : String) : String := if upper then s.map Char.toUpper else s
  match Decimal.Shape.ofFloat f with
  | .nan => p.padded (cased "nan")
  | .infinite negative => p.padded (p.sign negative ++ cased "inf")
  | .finite negative m q => p.signed (p.sign negative) (p.floatBody form upper m q)

/-! ### Values -/

/-- The whole number that a value has in a place for one. -/
def wholeIn (v : Value) : Except FaultKind Int :=
  match v.within (-Value.intBound) (2 * Value.intBound - 1) with
  | some i => .ok i
  | none => .error .invalidOperation

/-- The float that a value has in a place for one. -/
def floatIn (v : Value) : Except FaultKind Float :=
  match v.toFloat? true with
  | some f => .ok f
  | none => .error .invalidOperation

/-- A value as a text in its place. Numbers have no sign but a minus there. -/
def Place.text (p : Place) (safe : Bool) (v : Value) : String :=
  let plain : Place := { p with plus := false, blank := false, full := false }
  match v with
  | .float f => plain.float .general false f
  | .int i => plain.signed (plain.sign (i < 0)) (toString i.natAbs)
  | v =>
    let s := v.printed safe
    p.signed "" (match p.precision with | some n => String.ofList (s.toList.take n) | none => s)

/-- A character in its place, given by its number or as a text. -/
def Place.character (p : Place) (v : Value) : Except FaultKind String :=
  match v with
  | .str s _ => if s.length = 1 then .ok (p.padded s) else .error .invalidOperation
  | v => do
    let i ← wholeIn v
    if 0 ≤ i ∧ i.toNat.isValidChar then return p.padded (String.ofList [Char.ofNat i.toNat])
    else throw .invalidOperation

/-- The text of a value in a place. -/
def Place.fill (p : Place) (safe : Bool) (v : Value) : Except FaultKind String :=
  match p.letter with
  | 's' => .ok (p.text safe v)
  | 'd' => (wholeIn v).map (p.whole 10 false "")
  | 'x' => (wholeIn v).map (p.whole 16 false "0x")
  | 'X' => (wholeIn v).map (p.whole 16 true "0X")
  | 'o' => (wholeIn v).map (p.whole 8 false "0o")
  | 'f' => (floatIn v).map (p.float .fixed false)
  | 'F' => (floatIn v).map (p.float .fixed true)
  | 'e' => (floatIn v).map (p.float .scientific false)
  | 'E' => (floatIn v).map (p.float .scientific true)
  | 'g' => (floatIn v).map (p.float .general false)
  | 'G' => (floatIn v).map (p.float .general true)
  | 'c' => p.character v
  | _ => .error .invalidOperation

/-- A pattern with its places filled, at most `fuel` characters of it looked at. Values that are
left over do not count. -/
def filled (safe : Bool) : Nat → List Char → List Value → Except FaultKind (List Char)
  | 0, _, _ => .ok []
  | _ + 1, [], _ => .ok []
  | fuel + 1, c :: cs, vs =>
    if c = '%' then
      match cs with
      | '%' :: rest => return '%' :: (← filled safe fuel rest vs)
      | cs =>
        match Place.ofChars? cs, vs with
        | some (p, rest), v :: vs =>
          return (← p.fill safe v).toList ++ (← filled safe fuel rest vs)
        | _, _ => .error .invalidOperation
    else return c :: (← filled safe fuel cs vs)

/-- The text with its places filled by the arguments. -/
def format (args : List Value) : Use Value := do
  let (pattern, vs) ← Taking.all
    (do return (← Taking.one (Reading.orInvalid fun v => v.text?.map fun _ => v),
      ← Taking.others)) args
  let safe ← mixes [pattern]
  let cs := pattern.text.toList
  return .str (String.ofList (← Use.of (filled safe (cs.length + 1) cs vs))) safe

end TemplateCheck.Template.Filters
