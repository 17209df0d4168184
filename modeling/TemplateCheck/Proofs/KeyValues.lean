import TemplateCheck.KeyValues.Basic
import TemplateCheck.Proofs.KeyMap

/-!
# Which entry of a key/value list counts

A list is laid over a model entry by entry. What the model holds afterwards is told here key by key.

* `KeyValues.first?`, `KeyValues.last?` — the first and the last entry for a key;
* `KeyValues.get?_applyDefaults` — the model's own value counts, then the first entry;
* `KeyValues.get?_applyOverrides` — the last entry counts, then the model's own value;
* `KeyValues.mem_keys_applyDefaults`, `KeyValues.mem_keys_applyOverrides` — no key is lost, and
  those of the list are there;
* `KeyValues.overlays_independent` — defaults and overrides may be laid over a model in either
  order, and again.
-/

namespace TemplateCheck.KeyValues

/-- The value of the first entry for a key. -/
def first? (kv : KeyValues) (key : String) : Option Json :=
  (kv.entries.find? (·.key == key)).map (·.value)

/-- The value of the last entry for a key. -/
def last? (kv : KeyValues) (key : String) : Option Json :=
  (kv.entries.reverse.find? (·.key == key)).map (·.value)

/-- One default fills its key if nothing stands there. -/
theorem get?_applyDefault (m : Model) (e : KeyValue) (key : String) :
    (if m.contains e.key then m else m.insert e.key e.value).get? key =
      (m.get? key).or (if e.key = key then some e.value else none) := by
  by_cases hkey : e.key = key
  · rw [if_pos hkey, hkey, KeyMap.contains]
    cases hm : m.get? key with
    | none => simp [KeyMap.get?_insert]
    | some v => simp [hm]
  · rw [if_neg hkey, Option.or_none]
    split
    · rfl
    · rw [KeyMap.get?_insert, if_neg (Ne.symm hkey)]

theorem get?_applyDefaults (kv : KeyValues) (m : Model) (key : String) :
    (kv.applyDefaults m).get? key = (m.get? key).or (kv.first? key) := by
  obtain ⟨entries⟩ := kv
  rw [applyDefaults, first?]
  induction entries generalizing m with
  | nil => rw [List.foldl_nil, List.find?_nil, Option.map_none, Option.or_none]
  | cons e entries ih =>
    rw [List.foldl_cons, ih, get?_applyDefault, Option.or_assoc, List.find?_cons]
    congr 1
    by_cases hkey : e.key = key
    · rw [if_pos hkey, Option.some_or, beq_iff_eq.mpr hkey, Option.map_some]
    · rw [if_neg hkey, Option.none_or, beq_eq_false_iff_ne.mpr hkey]

theorem get?_applyOverrides (kv : KeyValues) (m : Model) (key : String) :
    (kv.applyOverrides m).get? key = (kv.last? key).or (m.get? key) := by
  have hfold : kv.applyOverrides m =
      (kv.entries.map fun e => (e.key, e.value)).foldl (fun m e => m.insert e.1 e.2) m := by
    rw [List.foldl_map]
    rfl
  rw [hfold, KeyMap.get?_foldl_insert, ← List.map_reverse, lookup_map, last?]

/-! ### Keys -/

/-- The keys of the entries, in order. -/
def keys (kv : KeyValues) : List String :=
  kv.entries.map (·.key)

theorem isSome_first?_iff (kv : KeyValues) (key : String) :
    (kv.first? key).isSome ↔ key ∈ kv.keys := by
  rw [first?, Option.isSome_map, List.find?_isSome, keys, List.mem_map]
  simp

theorem isSome_last?_iff (kv : KeyValues) (key : String) :
    (kv.last? key).isSome ↔ key ∈ kv.keys := by
  rw [last?, Option.isSome_map, List.find?_isSome, keys, List.mem_map]
  simp

theorem mem_keys_applyDefaults (kv : KeyValues) (m : Model) (key : String) :
    key ∈ (kv.applyDefaults m).keys ↔ key ∈ m.keys ∨ key ∈ kv.keys := by
  rw [KeyMap.mem_keys_iff, get?_applyDefaults, Option.isSome_or, Bool.or_eq_true,
    isSome_first?_iff, KeyMap.mem_keys_iff]

theorem mem_keys_applyOverrides (kv : KeyValues) (m : Model) (key : String) :
    key ∈ (kv.applyOverrides m).keys ↔ key ∈ kv.keys ∨ key ∈ m.keys := by
  rw [KeyMap.mem_keys_iff, get?_applyOverrides, Option.isSome_or, Bool.or_eq_true,
    isSome_last?_iff, KeyMap.mem_keys_iff]

/-! ### Defaults and overrides together -/

/-- The model's own values stand between the overrides and the defaults, in whichever order these
come. -/
theorem applyDefaults_applyOverrides (d o : KeyValues) (m : Model) :
    d.applyDefaults (o.applyOverrides m) = o.applyOverrides (d.applyDefaults m) := by
  apply KeyMap.ext_get?
  intro key
  rw [get?_applyDefaults, get?_applyOverrides, get?_applyOverrides, get?_applyDefaults,
    Option.or_assoc]

theorem applyDefaults_applyDefaults (d : KeyValues) (m : Model) :
    d.applyDefaults (d.applyDefaults m) = d.applyDefaults m := by
  apply KeyMap.ext_get?
  intro key
  rw [get?_applyDefaults, get?_applyDefaults, Option.or_assoc, Option.or_self]

theorem applyOverrides_applyOverrides (o : KeyValues) (m : Model) :
    o.applyOverrides (o.applyOverrides m) = o.applyOverrides m := by
  apply KeyMap.ext_get?
  intro key
  rw [get?_applyOverrides, get?_applyOverrides, ← Option.or_assoc, Option.or_self]

/-- A model with defaults and then overrides is the model with overrides and then defaults,
whichever keys the three have in common and however often. Neither list changes anything when it is
laid over a second time, at once or after the other one. The model has then the keys of all three,
each with the last override for it, else with its own value, else with the first default. -/
theorem overlays_independent (d o : KeyValues) (m : Model) :
    o.applyOverrides (d.applyDefaults m) = d.applyDefaults (o.applyOverrides m) ∧
    (d.applyDefaults (d.applyDefaults m) = d.applyDefaults m ∧
      o.applyOverrides (o.applyOverrides m) = o.applyOverrides m) ∧
    (d.applyDefaults (o.applyOverrides (d.applyDefaults m)) = o.applyOverrides (d.applyDefaults m) ∧
      o.applyOverrides (o.applyOverrides (d.applyDefaults m)) =
        o.applyOverrides (d.applyDefaults m)) ∧
    ∀ key,
      (key ∈ (o.applyOverrides (d.applyDefaults m)).keys ↔
        key ∈ m.keys ∨ key ∈ d.keys ∨ key ∈ o.keys) ∧
      (o.applyOverrides (d.applyDefaults m)).get? key =
        (o.last? key).or ((m.get? key).or (d.first? key)) := by
  refine ⟨(applyDefaults_applyOverrides d o m).symm,
    ⟨applyDefaults_applyDefaults d m, applyOverrides_applyOverrides o m⟩, ⟨?_, ?_⟩, ?_⟩
  · rw [applyDefaults_applyOverrides, applyDefaults_applyDefaults]
  · exact applyOverrides_applyOverrides o (d.applyDefaults m)
  · intro key
    constructor
    · rw [mem_keys_applyOverrides, mem_keys_applyDefaults, or_comm, or_assoc]
    · rw [get?_applyOverrides, get?_applyDefaults]

end TemplateCheck.KeyValues
