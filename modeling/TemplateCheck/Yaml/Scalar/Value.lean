import TemplateCheck.Decimal.Read
import TemplateCheck.Json.Value
import TemplateCheck.Yaml.Token.Property

/-!
# What scalars stand for

A plain scalar that looks like nothing, a truth value or a number is one; every other scalar is a
text. A tag may say what a scalar has to be.

* `isNull`, `bool?`, `int?`, `float?` — the scalars that are something else than a text;
* `Scalar.ofPlain` — what a plain scalar stands for;
* `Scalar.ofTagged` — what a scalar stands for, with its tag.
-/

namespace TemplateCheck.Yaml

/-! ### Words -/

/-- The spellings of nothing. -/
def isNull (s : String) : Bool :=
  ["null", "Null", "NULL", "~"].contains s

/-- The spellings of the truth values. -/
def bool? (s : String) : Option Bool :=
  if ["true", "True", "TRUE"].contains s then some true
  else if ["false", "False", "FALSE"].contains s then some false
  else none

/-! ### Whole numbers -/

/-- The text behind a sign of either kind. -/
def unsigned : List Char → List Char
  | '-' :: cs => cs
  | '+' :: cs => cs
  | cs => cs

/-- Digits with a leading zero are no number but a text. -/
def isZeroPadded (cs : List Char) : Bool :=
  match unsigned cs with
  | '0' :: c :: cs => (c :: cs).all Char.isDigit
  | _ => false

/-- The value of a digit. -/
def digit? (base : Nat) (c : Char) : Option Nat :=
  let n :=
    if c.isDigit then some (c.toNat - '0'.toNat)
    else if c.isLower then some (c.toNat - 'a'.toNat + 10)
    else if c.isUpper then some (c.toNat - 'A'.toNat + 10)
    else none
  n.filter (· < base)

/-- The number that digits stand for; there has to be one. -/
def natural? (base : Nat) (cs : List Char) : Option Nat :=
  if cs.isEmpty then none else cs.foldlM (fun n c => (digit? base c).map (n * base + ·)) 0

/-- A number without sign, whose digits may have their base in front of them. -/
def magnitude? (cs : List Char) : Option Nat :=
  match cs with
  | '0' :: 'x' :: ds => natural? 16 ds
  | '0' :: 'o' :: ds => natural? 8 ds
  | '0' :: 'b' :: ds => natural? 2 ds
  | ds => natural? 10 ds

/-- The whole number that a scalar stands for, if it fits in 128 bits, signed or not. -/
def int? (s : String) : Option Int :=
  let cs := s.toList
  if isZeroPadded cs then none
  else
    match cs with
    | '-' :: cs => ((magnitude? cs).filter (· ≤ Nat.pow 2 127)).map fun n => -(n : Int)
    | cs =>
      let cs := if cs.head? = some '+' then cs.drop 1 else cs
      ((magnitude? cs).filter (· < Nat.pow 2 128)).map fun n => (n : Int)

/-! ### Other numbers -/

/-- The float that a scalar stands for. -/
def float? (s : String) : Option Float :=
  let cs := s.toList
  let positive := String.ofList (if cs.head? = some '+' then cs.drop 1 else cs)
  if positive.startsWith "+" || (cs.head? = some '+' && positive.startsWith "-") then none
  else if [".inf", ".Inf", ".INF"].contains positive then some (1.0 / 0.0)
  else if ["-.inf", "-.Inf", "-.INF"].contains s then some (-(1.0 / 0.0))
  else if [".nan", ".NaN", ".NAN"].contains s then some (0.0 / 0.0)
  else (Decimal.float? positive).filter Float.isFinite

/-! ### Scalars -/

/-- What a scalar stands for. -/
inductive Scalar where
  | null
  | bool (b : Bool)
  /-- A whole number of at most 128 bits. -/
  | int (i : Int)
  | float (f : Float)
  | text (s : String)
deriving Repr

namespace Scalar

/-- What a plain scalar stands for. -/
def ofPlain (s : String) : Scalar :=
  if s.isEmpty || isNull s then .null
  else
    match bool? s, int? s with
    | some b, _ => .bool b
    | none, some i => .int i
    | none, none =>
      if isZeroPadded s.toList then .text s
      else
        match float? s with
        | some f => .float f
        | none => .text s

/-- What a scalar without a tag stands for. -/
def ofUntagged (style : Style) (s : String) : Scalar :=
  if style = .plain then ofPlain s else .text s

/-- The tags of the kinds that a scalar may have to be. -/
inductive Kind where
  | bool
  | int
  | float
  | null
deriving Repr, DecidableEq

/-- The kind that a tag names. -/
def Kind.ofTag? (tag : String) : Option Kind :=
  [("tag:yaml.org,2002:bool", .bool), ("tag:yaml.org,2002:int", .int),
    ("tag:yaml.org,2002:float", .float), ("tag:yaml.org,2002:null", .null)].lookup tag

/-- A scalar as one of a kind. -/
def ofKind? (kind : Kind) (s : String) : Option Scalar :=
  match kind with
  | .bool => (bool? s).map .bool
  | .int => (int? s).map .int
  | .float => (float? s).map .float
  | .null => if isNull s then some .null else none

/-- What a scalar stands for. One that is not of the kind that its tag names is out of place; any
other tag makes it a text, unless it is a tag of the document's own. -/
def ofTagged (tag : Option String) (style : Style) (s : String) : Except DecodeFault Scalar :=
  match tag with
  | none => .ok (ofUntagged style s)
  | some tag =>
    match Kind.ofTag? tag with
    | some kind =>
      match ofKind? kind s with
      | some v => .ok v
      | none => .error .invalidValue
    | none => .ok (if tag.startsWith "!" then ofUntagged style s else .text s)

end Scalar

end TemplateCheck.Yaml
