import TemplateCheck.Json.Value

/-!
# Key/value lists

Ordered lists of named values that complete a model before it is used. A key may occur more
than once; which entry counts is decided only when the list is laid over a model.

* `KeyValues.append`, `KeyValues.extend` — concatenation with a model's entries and with
  another list;
* `KeyValues.applyDefaults` — fill in what the model lacks: the first entry for a key counts;
* `KeyValues.applyOverrides` — replace what the model has: the last entry for a key counts;
* `Labelled` — lists with a label that tells whether two of them are one and the same.
-/

namespace TemplateCheck

/-- A named value. -/
structure KeyValue where
  key : String
  value : Json
deriving Inhabited, Repr

/-- An ordered list of named values. -/
structure KeyValues where
  entries : List KeyValue
deriving Inhabited, Repr

namespace KeyValues

/-- The list without entries. -/
def empty : KeyValues := ⟨[]⟩

/-- The number of entries. -/
def length (kv : KeyValues) : Nat := kv.entries.length

/-- Has the list no entries? -/
def isEmpty (kv : KeyValues) : Bool := kv.entries.isEmpty

/-- The list of the given pairs, in order. -/
def ofPairs (pairs : List (String × Json)) : KeyValues :=
  ⟨pairs.map fun (key, value) => ⟨key, value⟩⟩

/-- The entries of a model, in key order. -/
def ofModel (m : Model) : KeyValues :=
  ofPairs m.entries

/-- The entries of this list, then those of `more`. -/
def extend (kv more : KeyValues) : KeyValues :=
  ⟨kv.entries ++ more.entries⟩

/-- The entries of this list, then those of the model `more`. -/
def append (kv : KeyValues) (more : Model) : KeyValues :=
  kv.extend (ofModel more)

/-- Set each key that the model does not contain yet, in entry order. -/
def applyDefaults (kv : KeyValues) (m : Model) : Model :=
  kv.entries.foldl (fun m e => if m.contains e.key then m else m.insert e.key e.value) m

/-- Set every key, in entry order. -/
def applyOverrides (kv : KeyValues) (m : Model) : Model :=
  kv.entries.foldl (fun m e => m.insert e.key e.value) m

end KeyValues

/-- A list under a label. Lists made separately have different labels. -/
structure Labelled where
  label : Nat
  list : KeyValues
deriving Inhabited, Repr

namespace Labelled

/-- Are the two lists one and the same? -/
def same (a b : Labelled) : Bool := a.label == b.label

/-- The list `a` extended by `b`: when either side is empty, the other side itself, else a new list
under the label `fresh`. -/
def extend (fresh : Nat) (a b : Labelled) : Labelled :=
  if a.list.isEmpty then b
  else if b.list.isEmpty then a
  else ⟨fresh, a.list.extend b.list⟩

/-- The list `a` with the entries of a model behind its own: when the model is empty, `a` itself,
else a new list under the label `fresh`. -/
def append (fresh : Nat) (a : Labelled) (more : Model) : Labelled :=
  if more.entries.isEmpty then a else ⟨fresh, a.list.append more⟩

theorem list_extend (fresh : Nat) (a b : Labelled) :
    (extend fresh a b).list = a.list.extend b.list := by
  obtain ⟨_, ⟨as⟩⟩ := a
  obtain ⟨_, ⟨bs⟩⟩ := b
  cases as <;> cases bs <;> simp [extend, KeyValues.extend, KeyValues.isEmpty]

end Labelled

end TemplateCheck
