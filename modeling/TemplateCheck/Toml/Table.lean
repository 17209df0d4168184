import TemplateCheck.KeyMap.Basic
import TemplateCheck.Toml.Scalar

/-!
# Building tables

Tables are filled entry by entry. A table can come about in three ways, and each may be added to in
some ways only.

* `Origin`, `Part` — how a table came about, and what stands under a key meanwhile;
* `descend?` — a change of a table that a path leads to;
* `put?` — an entry under a dotted key;
* `openTable?`, `openSeries?` — the headers of tables;
* `Part.finished`, `Entries.value` — the finished values.
-/

namespace TemplateCheck.Toml

/-- How a table came about. -/
inductive Origin where
  /-- It has a header. -/
  | header
  /-- It is on the way to one that has a header. -/
  | implied
  /-- It is on the way to an entry. -/
  | dotted
deriving Repr, DecidableEq

/-- What stands under a key while tables are built. -/
inductive Part where
  /-- Nothing is added to a value. -/
  | value (v : Value)
  | table (origin : Origin) (entries : List (String × Part))
  /-- Tables with one header, the last one first. -/
  | series (tables : List (List (String × Part)))

/-- The entries of a table. -/
abbrev Entries := List (String × Part)

/-- The entries with what stands under a key changed. -/
def Entries.replace (key : String) (part : Part) (es : Entries) : Entries :=
  es.map fun (k, p) => if k = key then (k, part) else (k, p)

/-! ### Changes -/

/-- A change of the table that a path leads to. Tables that are missing on the way are made. The
dotted key of an entry does not lead through a table that has a header. -/
def descend? (dotted : Bool) (change : Origin → Entries → Option Entries) :
    List String → Origin → Entries → Option Entries
  | [], origin, es => change origin es
  | key :: path, _, es =>
    match es.lookup key with
    | none =>
      let origin := if dotted then Origin.dotted else .implied
      (descend? dotted change path origin []).map fun inner => es ++ [(key, .table origin inner)]
    | some (.table origin inner) =>
      if dotted ∧ origin = .header then none
      else
        (descend? dotted change path origin inner).map fun inner =>
          Entries.replace key (.table origin inner) es
    | some (.series (last :: others)) =>
      (descend? dotted change path .header last).map fun last =>
        Entries.replace key (.series (last :: others)) es
    | some _ => none

/-- A new entry. A dotted key adds to tables that came about by dotted keys only. -/
def add? (dotted : Bool) (key : String) (v : Value) (origin : Origin) (es : Entries) :
    Option Entries :=
  if dotted ∧ origin ≠ .dotted then none
  else if (es.lookup key).isSome then none
  else some (es ++ [(key, .value v)])

/-- A new entry under a dotted key. -/
def put? (path : List String) (key : String) (v : Value) (origin : Origin) (es : Entries) :
    Option Entries :=
  descend? true (add? (!path.isEmpty) key v) path origin es

/-- The header of a table. A table that is only implied may get one. -/
def openTable? (path : List String) (key : String) (es : Entries) : Option Entries :=
  descend? false (fun _ es =>
    match es.lookup key with
    | none => some (es ++ [(key, .table .header [])])
    | some (.table .implied inner) => some (Entries.replace key (.table .header inner) es)
    | some _ => none) path .header es

/-- The header of one more table of a series. -/
def openSeries? (path : List String) (key : String) (es : Entries) : Option Entries :=
  descend? false (fun _ es =>
    match es.lookup key with
    | none => some (es ++ [(key, .series [[]])])
    | some (.series tables) => some (Entries.replace key (.series ([] :: tables)) es)
    | some _ => none) path .header es

/-! ### Values -/

mutual

/-- What stands under a key, as a value. -/
def Part.finished : Part → Value
  | .value v => v
  | .table _ es => .table (KeyMap.ofList (entriesOf es)).entries
  | .series tables => .array (tablesOf tables).reverse

/-- The entries of a table as values. -/
def entriesOf : List (String × Part) → List (String × Value)
  | [] => []
  | (key, part) :: es => (key, part.finished) :: entriesOf es

/-- The tables of a series as values. -/
def tablesOf : List (List (String × Part)) → List Value
  | [] => []
  | es :: rest => .table (KeyMap.ofList (entriesOf es)).entries :: tablesOf rest

end

/-- The finished table. -/
def Entries.value (es : Entries) : Value :=
  .table (KeyMap.ofList (entriesOf es)).entries

end TemplateCheck.Toml
