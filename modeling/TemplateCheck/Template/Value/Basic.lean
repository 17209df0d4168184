import TemplateCheck.Json.Value
import TemplateCheck.Template.Fault

/-!
# Template values

The values that template expressions compute with.

* `Value` — the values: whole numbers have at most 128 bits, sequences and maps remember how they
  were made, and `Ref` stands for what lives in the machine that runs a template;
* `Value.ofJson` — the value of a part of a model;
* `Value.kind`, `Value.isTrue`, `Value.text?` — what every operation asks first;
* `Pair` and `coerce` — two values brought to a common kind of number or text.
-/

namespace TemplateCheck.Template

/-! ### Values -/

/-- How a sequence was made. -/
inductive SeqKind where
  /-- A list with all its items. -/
  | list
  /-- Items computed from another value. -/
  | derived
  /-- Items that come one by one, so that nobody knows how many there are. -/
  | stream
  /-- A group of items with what they have in common. -/
  | group
deriving Repr, DecidableEq, Inhabited

/-- What a map is. -/
inductive MapKind where
  | plain
  /-- The keyword arguments of a call. -/
  | keywords
  /-- Something with attributes that has a text of its own. -/
  | titled (text : String)
deriving Repr, DecidableEq, Inhabited

/-- Something that lives in the machine that runs a template. -/
inductive Ref where
  /-- A routine defined by the template. -/
  | routine (id : Nat) (name : String)
  /-- A set of attributes that can be assigned. -/
  | record (id : Nat)
  /-- A running loop. -/
  | loop (id : Nat)
  /-- A function known by name. -/
  | function (name : String)
deriving Repr, DecidableEq, Inhabited

/-- A template value. -/
inductive Value where
  /-- No value. If `silent`, it was asked for on purpose and may be printed. -/
  | undefined (silent : Bool)
  | none
  | bool (b : Bool)
  | int (i : Int)
  | float (f : Float)
  /-- A text. If `safe`, it is not escaped any more. -/
  | str (s : String) (safe : Bool)
  | seq (kind : SeqKind) (items : List Value)
  | map (kind : MapKind) (entries : List (Value × Value))
  | object (ref : Ref)
deriving Inhabited

namespace Value

/-- A text that is to be escaped. -/
def ofString (s : String) : Value := .str s false

/-- A list. -/
def ofList (items : List Value) : Value := .seq .list items

/-- A natural number. -/
def ofNat (n : Nat) : Value := .int n

mutual

/-- The value of a part of a model. -/
def ofJson : Json → Value
  | .null => .none
  | .bool b => .bool b
  | .int i => .int i
  | .float f => .float f
  | .str s => ofString s
  | .arr items => .seq .list (ofJsonItems items)
  | .obj members => .map .plain (ofJsonMembers members)

/-- The values of the items of a list. -/
def ofJsonItems : List Json → List Value
  | [] => []
  | j :: js => ofJson j :: ofJsonItems js

/-- The values of the members of an object. -/
def ofJsonMembers : List (String × Json) → List (Value × Value)
  | [] => []
  | (key, j) :: ms => (ofString key, ofJson j) :: ofJsonMembers ms

end

/-! ### Kinds -/

/-- The kinds of values. -/
inductive Kind where
  | undefined
  | none
  | bool
  | number
  | string
  | seq
  | map
  | derived
  | object
deriving Repr, DecidableEq

/-- The place of a kind among the kinds: values of different kinds are ordered by it. -/
def Kind.rank : Kind → Nat
  | .undefined => 0
  | .none => 1
  | .bool => 2
  | .number => 3
  | .string => 4
  | .seq => 5
  | .map => 6
  | .derived => 7
  | .object => 8

/-- The kind of a value. -/
def kind : Value → Kind
  | .undefined _ => .undefined
  | .none => .none
  | .bool _ => .bool
  | .int _ => .number
  | .float _ => .number
  | .str _ _ => .string
  | .seq .derived _ => .derived
  | .seq .stream _ => .derived
  | .seq _ _ => .seq
  | .map _ _ => .map
  | .object _ => .object

/-- Is the value undefined? -/
def isUndefined : Value → Bool
  | .undefined _ => true
  | _ => false

/-- Is the value `none`? -/
def isNone : Value → Bool
  | .none => true
  | _ => false

/-- Does the value count as true? -/
def isTrue : Value → Bool
  | .undefined _ => false
  | .none => false
  | .bool b => b
  | .int i => i != 0
  | .float f => f != 0.0
  | .str s _ => s != ""
  | .seq .stream _ => true
  | .seq _ items => !items.isEmpty
  | .map _ entries => !entries.isEmpty
  | .object _ => true

/-- Is the value a list or a map? -/
def isContainer : Value → Bool
  | .seq _ _ => true
  | .map _ _ => true
  | _ => false

/-- Does the value yield items of which nobody knows how many there are? -/
def isStream : Value → Bool
  | .seq .stream _ => true
  | _ => false

/-- The text of a value that is a text. -/
def text? : Value → Option String
  | .str s _ => some s
  | _ => Option.none

/-! ### Numbers -/

/-- The least whole number that does not fit into 127 bits. -/
def intBound : Int := Nat.pow 2 127

/-- A whole number as the result of an operation, if it fits into 128 bits with a sign. -/
def ofInt? (i : Int) : Option Value :=
  if -intBound ≤ i ∧ i < intBound then some (.int i) else Option.none

/-- The whole number that a truth value or a whole number stands for. -/
def toInt? : Value → Option Int
  | .bool b => some (if b then 1 else 0)
  | .int i => if i < intBound then some i else Option.none
  | _ => Option.none

/-- Is the whole number exactly a float? -/
def fitsFloat (i : Int) : Bool :=
  let n := i.natAbs
  n < Nat.pow 2 53 || (let shift := n.log2 - 52; n / Nat.pow 2 shift * Nat.pow 2 shift == n)

/-- The float that a number or truth value stands for. Unless `lossy`, a whole number that is
not exactly a float stands for none. -/
def toFloat? (lossy : Bool) : Value → Option Float
  | .bool b => some (if b then 1.0 else 0.0)
  | .int i => if lossy || fitsFloat i then some (Float.ofInt i) else Option.none
  | .float f => some f
  | _ => Option.none

/-- The whole part of a finite float. -/
def truncate (f : Float) : Int :=
  let bits := f.toBits.toNat
  let exponent := bits / Nat.pow 2 52 % Nat.pow 2 11
  let fraction := bits % Nat.pow 2 52
  let n : Nat :=
    if exponent < 1023 then 0
    else if exponent < 1075 then (Nat.pow 2 52 + fraction) / Nat.pow 2 (1075 - exponent)
    else (Nat.pow 2 52 + fraction) * Nat.pow 2 (exponent - 1075)
  if bits < Nat.pow 2 63 then n else -(n : Int)

/-- The whole number between `low` and `high` that a value stands for; a float stands for one
if it has no fraction. -/
def within (low high : Int) (v : Value) : Option Int :=
  let i? :=
    match v with
    | .bool b => some (if b then 1 else 0)
    | .int i => some i
    | .float f =>
      if f.isFinite then
        let i := truncate f
        if Float.ofInt i == f then some i else Option.none
      else Option.none
    | _ => Option.none
  i?.bind fun i => if low ≤ i ∧ i ≤ high then some i else Option.none

/-- The whole number of 64 bits that a value stands for. -/
def toInt64? (v : Value) : Option Int :=
  v.within (-(Nat.pow 2 63)) (Nat.pow 2 63 - 1)

/-- The count that a value stands for. -/
def toNat? (v : Value) : Option Nat :=
  (v.within 0 (Nat.pow 2 64 - 1)).map Int.toNat

/-! ### Two values -/

/-- Two values of a common kind. -/
inductive Pair where
  | ints (a b : Int)
  | floats (a b : Float)
  | texts (a b : String)

/-- Two values brought to a common kind: texts stay texts, a float makes both floats, and all
other numbers become whole numbers of 128 bits. Two whole numbers too large for that both wrap
around. -/
def coerce (lossy : Bool) : Value → Value → Option Pair
  | .str s _, .str t _ => some (.texts s t)
  | .float x, v => (v.toFloat? lossy).map (.floats x ·)
  | v, .float y => (v.toFloat? lossy).map (.floats · y)
  | .int i, .int j =>
    if intBound ≤ i ∧ intBound ≤ j then some (.ints (i - 2 * intBound) (j - 2 * intBound))
    else
      match toInt? (.int i), toInt? (.int j) with
      | some i, some j => some (.ints i j)
      | _, _ => Option.none
  | v, w =>
    match v.toInt?, w.toInt? with
    | some i, some j => some (.ints i j)
    | _, _ => Option.none

end Value

end TemplateCheck.Template
