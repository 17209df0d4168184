import TemplateCheck.Template.Value.Arithmetic
import TemplateCheck.Template.Value.Order

/-!
# Parts of values

* `Value.items?` — what a loop over a value runs through;
* `Value.length?` — how many items that are;
* `Value.item?` — the item of a value under a key, `Value.atPath` along a dotted path;
* `Value.slice` — a run of items;
* `Value.holds` — the operator `in`;
* `Value.reversed` — a value back to front.
-/

namespace TemplateCheck.Template.Value

/-- The characters of a text as values. -/
def characters (s : String) : List Value :=
  s.toList.map fun c => ofString (String.ofList [c])

/-- What a loop over a value runs through: items, keys or characters. There is nothing in `none`
and in what is undefined. -/
def items? : Value → Option (List Value)
  | .undefined _ => some []
  | .none => some []
  | .str s _ => some (characters s)
  | .seq _ items => some items
  | .map _ entries => some (entries.map (·.1))
  | _ => Option.none

/-- The number of items of a container or of characters of a text. -/
def length? : Value → Option Nat
  | .str s _ => some s.length
  | .seq .stream _ => Option.none
  | .seq _ items => some items.length
  | .map _ entries => some entries.length
  | _ => Option.none

/-- The place that a key means in a list: counted from the end if it is negative, which takes a
known length. -/
def place? (length : Option Nat) (key : Value) : Option Nat :=
  key.toInt64?.bind fun i =>
    if 0 ≤ i then some i.toNat
    else length.bind fun n => if i.natAbs ≤ n then some (n - i.natAbs) else Option.none

/-- The item of a value under a key. -/
def item? (v key : Value) : Option Value :=
  match v with
  | .map _ entries => find? key entries
  | .seq kind items =>
    match place? v.length? key, kind, key with
    | some i, _, _ => items[i]?
    | Option.none, .group, .str name _ =>
      if name = "grouper" then items[0]?
      else if name = "list" then items[1]?
      else Option.none
    | _, _, _ => Option.none
  | .str s _ => (place? v.length? key).bind fun i => (characters s)[i]?
  | _ => Option.none

/-- The item of a value under a key, in a place where a value has to be defined. -/
def itemOf (v key : Value) : Outcome :=
  if v.isUndefined then .error .undefinedValue
  else .ok ((v.item? key).getD (.undefined false))

/-- The texts between the dots of a text. -/
def splitDots (cs : List Char) : List (List Char) :=
  cs.foldr (fun c parts =>
    match parts with
    | part :: rest => if c = '.' then [] :: part :: rest else (c :: part) :: rest
    | [] => [[c]]) [[]]

/-- The key that a part of a dotted path means. -/
def pathKey (part : List Char) : Value :=
  let digits :=
    match part with
    | '+' :: ds => ds
    | ds => ds
  let n := digits.foldl (fun n c => n * 10 + (c.toNat - '0'.toNat)) 0
  if !digits.isEmpty && digits.all Char.isDigit && n < Nat.pow 2 64 then ofNat n
  else ofString (String.ofList part)

/-- The part of a value at the end of a dotted path. -/
def atPath (path : String) (v : Value) : Outcome :=
  (splitDots path.toList).foldlM (fun v part => v.itemOf (pathKey part)) v

/-- The part of a value at the end of a dotted path, or another value if there is none. -/
def atPathOr (default : Value) (path : String) (v : Value) : Value :=
  match v.atPath path with
  | .ok found => if found.isUndefined then default else found
  | .error _ => default

/-- Is one text part of another? -/
def isPart (part : List Char) : List Char → Bool
  | [] => part.isEmpty
  | c :: cs => part.isPrefixOf (c :: cs) || isPart part cs

/-- Does the container hold the value? A text holds the texts in it, a map its keys. -/
def holds (container value : Value) : Except FaultKind Bool :=
  match container with
  | .undefined _ => .ok false
  | .str s _ => .ok (isPart value.text.toList s.toList)
  | .seq _ items => .ok (items.any fun item => equal item value)
  | .map _ entries => .ok (find? value entries).isSome
  | .object _ => .ok false
  | _ => invalid

/-! ### Slices -/

/-- Every `step`-th item, beginning with the first. -/
def everyNth (step : Nat) (items : List α) : List α :=
  (items.zipIdx.filter fun (_, i) => i % step = 0).map (·.1)

/-- The place that a bound of a forward slice of `length` items means: one that is negative counts
from the end, but not beyond the front. -/
def forwardPlace (length : Nat) (i : Int) : Nat :=
  (if i < 0 then length + i else i).toNat

/-- The bounds of a forward slice of `length` items: how many are left out at the front, and
how many follow at most. -/
def forwardBounds (length : Nat) (start : Int) (stop : Option Int) : Nat × Nat :=
  let first := forwardPlace length start
  let last :=
    match stop with
    | Option.none => length
    | some i => forwardPlace length i
  (first, last - first)

/-- The places of a backward slice of `length` items in steps of `step`. -/
def backwardPlaces (length step : Nat) (start : Option Int) (stop : Option Int) : List Nat :=
  let first : Nat :=
    match start with
    | Option.none => length - 1
    | some i => if i < 0 then (length + i).toNat else min i.toNat (length - 1)
  let last : Nat :=
    match stop with
    | Option.none => 0
    | some i => if i < 0 then (length + i).toNat else i.toNat
  let count :=
    if last = 0 then (first + step) / step else (first - last + step - 1) / step
  ((List.range count).map fun i => first - i * step).filter (· < length)

/-- The items of a slice, the bounds being counted as if there were `length` items. -/
def sliceItems (length : Nat) (start stop : Option Int) (step : Int) (items : List α) : List α :=
  if 0 < step then
    let (first, count) := forwardBounds length (start.getD 0) stop
    everyNth step.toNat ((items.drop first).take count)
  else (backwardPlaces length step.natAbs start stop).filterMap (items[·]?)

/-- A bound of a slice: `none` for no bound. -/
def bound? (v : Value) : Except FaultKind (Option Int) :=
  if v.isNone then .ok Option.none
  else
    match v.toInt64? with
    | some i => .ok (some i)
    | Option.none => invalid

/-- Items of a stream. If there are none, that is known. -/
def streamOf (items : List Value) : Value :=
  .seq (if items.isEmpty then .derived else .stream) items

/-- The items of a value from `start` up to `stop`, in steps of `step`. -/
def slice (v start stop step : Value) : Outcome := do
  let start ← bound? start
  let stop ← bound? stop
  let step := (← bound? step).getD 1
  if step = 0 then invalid
  else
    match v with
    | .str s _ => return ofString (String.ofList (sliceItems s.length start stop step s.toList))
    | .undefined _ => return ofList []
    | .none => return ofList []
    | .seq .stream items => return streamOf (sliceItems 0 start stop step items)
    | .seq _ items => return .seq .derived (sliceItems items.length start stop step items)
    | _ => invalid

/-- A value back to front. -/
def reversed : Value → Outcome
  | .undefined silent => .ok (.undefined silent)
  | .none => .ok .none
  | .str s safe => .ok (.str (String.ofList s.toList.reverse) safe)
  | .seq _ items => .ok (.seq .derived items.reverse)
  | .map _ entries => .ok (.seq .derived (entries.map (·.1)).reverse)
  | _ => invalid

end TemplateCheck.Template.Value
