import TemplateCheck.Template.Value.Basic

/-!
# Comparing values

* `Value.compare` — the order of all values: first by kind, then by value;
* `Value.equal` — equality, which also holds between a truth value, a whole number and a float
  that stand for the same number, and between a list and other sequences with equal items;
* `Value.find?`, `Value.enter` — entries in key order.
-/

namespace TemplateCheck.Template.Value

/-- The place of a float in the total order of floats, in which -0.0 comes before 0.0. -/
def floatKey (f : Float) : Int :=
  let bits := f.toBits.toNat
  if bits < Nat.pow 2 63 then bits else Nat.pow 2 63 - 1 - (bits : Int)

/-- The order of two values of a common kind. -/
def Pair.compare : Pair → Ordering
  | .ints a b => Ord.compare a b
  | .floats a b => Ord.compare (floatKey a) (floatKey b)
  | .texts a b => Ord.compare a b

/-- Are two values of a common kind equal? -/
def Pair.equal : Pair → Bool
  | .ints a b => a == b
  | .floats a b => a == b
  | .texts a b => a == b

/-- The order of a whole number that no float is equal to and a float. The whole part of a float is
a float, so the number is not equal to that either. -/
def compareToFloat (i : Int) (f : Float) : Ordering :=
  if f.isFinite then Ord.compare i (truncate f)
  else if floatKey f < 0 then .gt
  else .lt

/-- The order of two values that are no containers, of one kind. -/
def compareScalars (a b : Value) : Ordering :=
  match coerce false a b, a, b with
  | some pair, _, _ => pair.compare
  | Option.none, .int i, .int j => Ord.compare i j
  | Option.none, .int i, .float f => compareToFloat i f
  | Option.none, .float f, .int i => (compareToFloat i f).swap
  | Option.none, _, _ => .eq

mutual

/-- The order of two values. -/
def compare (a b : Value) : Ordering :=
  match Ord.compare a.kind.rank b.kind.rank with
  | .eq =>
    match a with
    | .seq _ items =>
      match b with
      | .seq _ others => compareItems items others
      | _ => .eq
    | .map _ entries =>
      match b with
      | .map _ others => compareEntries entries others
      | _ => .eq
    | a => compareScalars a b
  | order => order

/-- The order of two lists, item by item. -/
def compareItems : List Value → List Value → Ordering
  | [], [] => .eq
  | [], _ :: _ => .lt
  | _ :: _, [] => .gt
  | a :: as, b :: bs => (compare a b).then (compareItems as bs)

/-- The order of two maps, entry by entry. -/
def compareEntries : List (Value × Value) → List (Value × Value) → Ordering
  | [], [] => .eq
  | [], _ :: _ => .lt
  | _ :: _, [] => .gt
  | (k, v) :: as, (l, w) :: bs =>
    ((compare k l).then (compare v w)).then (compareEntries as bs)

end

/-- The value under a key. -/
def find? (key : Value) (entries : List (Value × Value)) : Option Value :=
  (entries.find? fun e => compare e.1 key == .eq).map (·.2)

/-- Entries in key order with `value` under `key`. An equal key that is there stays. -/
def enter (key value : Value) : List (Value × Value) → List (Value × Value)
  | [] => [(key, value)]
  | (k, v) :: rest =>
    match compare key k with
    | .lt => (key, value) :: (k, v) :: rest
    | .eq => (k, value) :: rest
    | .gt => (k, v) :: enter key value rest

/-- The map of the given entries, the later ones winning. -/
def ofEntries (entries : List (Value × Value)) : Value :=
  .map .plain (entries.foldl (fun done (k, v) => enter k v done) [])

mutual

/-- Are two values equal? -/
def equal (a b : Value) : Bool :=
  match a with
  | .none => b.isNone
  | .undefined _ => b.isUndefined
  | .seq _ items =>
    match b with
    | .seq _ others => equalItems items others
    | _ => false
  | .map _ entries =>
    match b with
    | .map _ others => entries.length == others.length && equalEntries entries others
    | _ => false
  | .object ref =>
    match b with
    | .object other => ref == other
    | _ => false
  | a => (coerce false a b).any Pair.equal

/-- Are two lists equal, item by item? -/
def equalItems : List Value → List Value → Bool
  | [], [] => true
  | a :: as, b :: bs => equal a b && equalItems as bs
  | _, _ => false

/-- Does every entry have an equal one among the others? -/
def equalEntries : List (Value × Value) → List (Value × Value) → Bool
  | [], _ => true
  | (k, v) :: rest, others =>
    (match find? k others with
      | some w => equal v w
      | Option.none => false) && equalEntries rest others

end

end TemplateCheck.Template.Value
