import TemplateCheck.Template.Argument
import TemplateCheck.Text.Case
import TemplateCheck.Text.Pieces

/-!
# Sequence filters

Filters that choose, order and group the items of a value. Each takes the filtered value and the
arguments of the filter in one list.
-/

namespace TemplateCheck.Template.Filters

open Taking (one optional)

/-! ### Single items -/

/-- The value, or another one if it is undefined or, when asked for, counts as false. -/
def default (args : List Value) : Use Value := do
  let (v, other, lax) ← Taking.all
    (do return (← Taking.value, ← Taking.value?, ← Taking.value?)) args
  if v.isUndefined || (lax.any Value.isTrue && !v.isTrue) then return other.getD (.ofString "")
  else return v

/-- The part of a value under a key. -/
def attr (args : List Value) : Use Value := do
  let (v, key) ← Taking.all (do return (← Taking.value, ← Taking.value)) args
  Use.of (v.itemOf key)

/-- A character of a text, which is safe if the text is. -/
def character (safe : Bool) (c : Char) : Value := .str (String.ofList [c]) safe

/-- The first item or character. -/
def first (args : List Value) : Use Value := do
  let v ← Taking.all Taking.value args
  match v with
  | .str s safe => return (s.toList.head?).elim (.undefined false) (character safe)
  | .seq _ _ | .map _ _ => return ((v.items?.getD []).head?).getD (.undefined false)
  | _ => Use.fail .invalidOperation

/-- The last item or character. -/
def last (args : List Value) : Use Value := do
  let v ← Taking.all Taking.value args
  match v with
  | .str s safe => return (s.toList.getLast?).elim (.undefined false) (character safe)
  | .seq _ items => return (items.getLast?).getD (.undefined false)
  | _ => Use.fail .invalidOperation

/-- The least item, the first of several. -/
def least (args : List Value) : Use Value := do
  match ← Use.itemsOrInvalid (← Taking.all Taking.value args) with
  | [] => return .undefined false
  | v :: vs => return vs.foldl (fun best v => if v.compare best = .lt then v else best) v

/-- The greatest item, the last of several. -/
def greatest (args : List Value) : Use Value := do
  match ← Use.itemsOrInvalid (← Taking.all Taking.value args) with
  | [] => return .undefined false
  | v :: vs => return vs.foldl (fun best v => if v.compare best = .lt then best else v) v

/-! ### All items -/

/-- The items as a list. -/
def list (args : List Value) : Use Value := do
  return .ofList (← Use.itemsOrInvalid (← Taking.all Taking.value args))

/-- The value back to front. -/
def reverse (args : List Value) : Use Value := do
  Use.of (← Taking.all Taking.value args).reversed

/-- The entries of a map as pairs. -/
def pairs (entries : List (Value × Value)) : Value :=
  .ofList (entries.map fun (k, v) => .ofList [k, v])

/-- The entries of a map as pairs. -/
def items (args : List Value) : Use Value := do
  match ← Taking.all Taking.value args with
  | .map _ entries => return pairs entries
  | _ => Use.fail .invalidOperation

/-- Several values one after the other: maps become one map in which the later ones win. What cannot
be gone through counts as empty. -/
def chain (args : List Value) : Use Value := do
  let vs := (← Taking.all (do return (← Taking.value) :: (← Taking.others)) args)
  let entries? : Value → Option (List (Value × Value))
    | .map _ entries => some entries
    | _ => none
  if vs.all fun v => (entries? v).isSome then
    return .ofEntries (vs.filterMap entries?).flatten
  else
    let kind := if vs.all (·.kind = .seq) then .list else .stream
    return .seq kind (vs.flatMap fun v => v.items?.getD [])

/-- Lists of the first items, the second items and so on, as far as all sequences reach. -/
def zip (args : List Value) : Use Value := do
  let vs := (← Taking.all (do return (← Taking.value) :: (← Taking.others)) args)
  match vs.mapM Value.items? with
  | none => Use.fail .invalidOperation
  | some parts =>
    let rows := ((parts.map List.length).min?).getD 0
    return .seq .stream ((List.range rows).map fun i => .ofList (parts.filterMap (·[i]?)))

/-! ### Order -/

/-- A text as it counts for an order that does not tell the case of ASCII letters. -/
def folded : Value → Value
  | .str s safe => .str (String.ofList (s.toList.map Char.toLower)) safe
  | v => v

/-- The order of two values, which for two texts may leave the case of letters aside. -/
def order (caseful : Bool) (a b : Value) : Ordering :=
  if !caseful && a.kind = .string && b.kind = .string then (folded a).compare (folded b)
  else a.compare b

/-- Items put in order, or in the reverse order if `turned`, equal ones staying as they stand. -/
def sortBy {α : Type} (turned : Bool) (order : α → α → Ordering) (items : List α) : List α :=
  items.mergeSort fun a b => (if turned then order b a else order a b) != .gt

/-- The order of two values by the parts at the end of dotted paths: the first path that tells them
apart decides. A part that cannot be reached tells nothing. -/
def orderAt (caseful : Bool) (paths : List String) (a b : Value) : Ordering :=
  paths.foldl (fun before path =>
    before.then
      (match a.atPath path, b.atPath path with
      | .ok a, .ok b => order caseful a b
      | _, _ => .eq)) .eq

/-- The paths with commas between them in a text. -/
def pathsIn (s : String) : List String :=
  (Text.splitAt [','] s.toList).map fun path => Text.trim (String.ofList path)

/-- The items in order; keywords give the parts that count, and whether the case of letters
does and the order is turned round. -/
def sort (args : List Value) : Use Value := do
  let (keywords, v) ← Taking.all (do return (← Taking.keywords, ← Taking.value)) args
  let items ← Use.itemsOrInvalid v
  let caseful ← keywords.flag "case_sensitive"
  let paths ← keywords.get? "attribute" Reading.string
  let compare : Value → Value → Ordering :=
    paths.elim (order caseful) fun paths => orderAt caseful (pathsIn paths)
  let turned ← keywords.flag "reverse"
  keywords.only ["case_sensitive", "attribute", "reverse"]
  return .ofList (sortBy turned compare items)

/-- The entries of a map as pairs in the order of their keys or, when asked for, values. -/
def dictSort (args : List Value) : Use Value := do
  let (keywords, v) ← Taking.all (do return (← Taking.keywords, ← Taking.value)) args
  match v with
  | .map _ entries =>
    let by_ ← keywords.get? "by" Reading.string
    let part : Value × Value → Value := if by_ = some "value" then Prod.snd else Prod.fst
    let caseful ← keywords.flag "case_sensitive"
    let turned ← keywords.flag "reverse"
    keywords.only ["by", "case_sensitive", "reverse"]
    return pairs (sortBy turned (fun a b => order caseful (part a) (part b)) entries)
  | _ => Use.fail .invalidOperation

/-- A value as it counts for telling equal items. -/
def likeness (caseful : Bool) : Value → Value
  | .str s safe => if caseful then .str s safe else .ofString (Text.Case.lower s)
  | v => v

/-- The items without those that are like an earlier one. -/
def unique (args : List Value) : Use Value := do
  let (keywords, v) ← Taking.all (do return (← Taking.keywords, ← Taking.value)) args
  let path ← keywords.get? "attribute" Reading.string
  let caseful ← keywords.flag "case_sensitive"
  keywords.only ["attribute", "case_sensitive"]
  let items ← Use.itemsOf v
  let key (item : Value) : Value :=
    likeness caseful (path.elim item (Value.atPathOr (.undefined false) · item))
  let (kept, _) := items.foldl (fun (kept, seen) item =>
    if seen.any fun s => Value.compare s (key item) = .eq then (kept, seen)
    else (item :: kept, key item :: seen)) (([], []) : List Value × List Value)
  return .ofList kept.reverse

/-! ### Groups -/

/-- Runs of items whose keys are equal; each run has the key of its last item. -/
def runs (equal : Value → Value → Bool) :
    List (Value × Value) → List (Value × List Value)
  | [] => []
  | (key, item) :: rest =>
    match runs equal rest, rest with
    | (last, items) :: others, (next, _) :: _ =>
      if equal key next then (last, item :: items) :: others
      else (key, [item]) :: (last, items) :: others
    | others, _ => (key, [item]) :: others

/-- The items put in order by a part of them, those with an equal part together in a group. -/
def groupBy (args : List Value) : Use Value := do
  let (keywords, v, path) ← Taking.all
    (do return (← Taking.keywords, ← Taking.value, ← optional Reading.string)) args
  let default ← keywords.get? "default" Reading.any
  let caseful ← keywords.flag "case_sensitive"
  let (path, names) ←
    match path with
    | some path => pure (path, [])
    | none =>
      match keywords.find? "attribute" with
      | some v => pure (← Use.of (Reading.string v), ["attribute"])
      | none => Use.fail .missingArgument
  match v.items? with
  | none => Use.fail .invalidOperation
  | some items =>
    keywords.only ("default" :: "case_sensitive" :: names)
    let keyed := items.map fun item =>
      (Value.atPathOr (default.getD (.undefined false)) path item, item)
    let sorted := sortBy false (fun a b => order caseful a.1 b.1) keyed
    let groups := runs (fun a b => order caseful a b = .eq) sorted
    return .ofList (groups.map fun (key, items) => .seq .group [key, .seq .derived items])

/-- The items in rows of a given length, the last one filled up with a value if there is
one. -/
def rows (length : Nat) (filler : Option Value) : Nat → List Value → List Value
  | 0, _ => []
  | n + 1, items =>
    if items.isEmpty then []
    else
      let row := items.take length
      let missing := match filler with
        | some v => List.replicate (length - row.length) v
        | none => []
      .ofList (row ++ missing) :: rows length filler n (items.drop length)

/-- The items in rows of a given length. -/
def batch (args : List Value) : Use Value := do
  let (v, length, filler) ← Taking.all
    (do return (← Taking.value, ← one Reading.nat, ← optional Reading.any)) args
  if length = 0 then Use.fail .invalidOperation
  else
    let items ← Use.itemsOf v
    return .ofList (rows length filler items.length items)

/-- A given number of columns for the items, the longer ones first; the shorter ones are filled
up with a value if there is one. -/
def columns (count longer length : Nat) (filler : Option Value) (index : Nat) :
    Nat → List Value → List Value
  | 0, _ => []
  | n + 1, items =>
    let size := if index < longer then length + 1 else length
    let column := items.take size
    let filled := match filler with
      | some v => if index < longer then column else column ++ [v]
      | none => column
    .ofList filled :: columns count longer length filler (index + 1) n (items.drop size)

/-- The items in a given number of columns. -/
def slice (args : List Value) : Use Value := do
  let (v, count, filler) ← Taking.all
    (do return (← Taking.value, ← one Reading.nat, ← optional Reading.any)) args
  if count = 0 then Use.fail .invalidOperation
  else
    let items ← Use.itemsOf v
    return .ofList
      (columns count (items.length % count) (items.length / count) filler 0 count items)

end TemplateCheck.Template.Filters
