/-!
# Maps in key order

Finite maps with text keys, kept in ascending key order. Texts are ordered by code point,
which is also the byte order of their UTF-8 forms.

* `insertEntry` — insertion into an ordered list of entries, replacing an equal key;
* `KeyMap` — an ordered list of entries with distinct keys;
* `KeyMap.insert`, `KeyMap.get?`, `KeyMap.contains`, `KeyMap.keys`, `KeyMap.ofList`.
-/

namespace TemplateCheck

/-! ### Ordered lists of entries -/

/-- Put `value` under `key` into an ordered list of entries. -/
def insertEntry {α : Type} (key : String) (value : α) : List (String × α) → List (String × α)
  | [] => [(key, value)]
  | (k, v) :: rest =>
    if key < k then (key, value) :: (k, v) :: rest
    else if k < key then (k, v) :: insertEntry key value rest
    else (key, value) :: rest

/-- The entries stand in strictly ascending key order. -/
def Ascending {α : Type} (entries : List (String × α)) : Prop :=
  entries.Pairwise fun a b => a.1 < b.1

instance {α : Type} (entries : List (String × α)) : Decidable (Ascending entries) :=
  inferInstanceAs (Decidable (entries.Pairwise fun a b => a.1 < b.1))

theorem eq_of_not_lt {a b : String} (h₁ : ¬ a < b) (h₂ : ¬ b < a) : a = b :=
  String.le_antisymm (String.not_lt.mp h₂) (String.not_lt.mp h₁)

theorem mem_keys_insertEntry {α : Type} {key : String} {value : α}
    {entries : List (String × α)} {e : String × α} (h : e ∈ insertEntry key value entries) :
    e.1 = key ∨ e ∈ entries := by
  induction entries with
  | nil => simp_all [insertEntry]
  | cons head rest ih =>
    obtain ⟨k, v⟩ := head
    simp only [insertEntry] at h
    split at h
    · simp only [List.mem_cons] at h ⊢
      rcases h with rfl | rfl | h
      · exact .inl rfl
      · exact .inr (.inl rfl)
      · exact .inr (.inr h)
    · split at h
      · simp only [List.mem_cons] at h ⊢
        rcases h with rfl | h
        · exact .inr (.inl rfl)
        · exact (ih h).imp_right .inr
      · simp only [List.mem_cons] at h ⊢
        rcases h with rfl | h
        · exact .inl rfl
        · exact .inr (.inr h)

theorem ascending_insertEntry {α : Type} {key : String} {value : α}
    {entries : List (String × α)} (h : Ascending entries) :
    Ascending (insertEntry key value entries) := by
  induction entries with
  | nil => simp [insertEntry, Ascending]
  | cons head rest ih =>
    obtain ⟨k, v⟩ := head
    obtain ⟨hk, hrest⟩ := List.pairwise_cons.mp h
    simp only [insertEntry]
    split
    · next hlt =>
      refine List.pairwise_cons.mpr ⟨?_, h⟩
      intro e he
      rcases List.mem_cons.mp he with rfl | he
      · exact hlt
      · exact String.lt_trans hlt (hk e he)
    · split
      · next hlt =>
        refine List.pairwise_cons.mpr ⟨?_, ih hrest⟩
        intro e he
        rcases mem_keys_insertEntry he with heq | he
        · exact heq ▸ hlt
        · exact hk e he
      · next h₁ h₂ =>
        obtain rfl := eq_of_not_lt h₁ h₂
        exact List.pairwise_cons.mpr ⟨hk, hrest⟩

/-! ### Maps -/

/-- A finite map with text keys, as its entries in key order. -/
structure KeyMap (α : Type) where
  entries : List (String × α)
  ascending : Ascending entries

namespace KeyMap

variable {α : Type}

/-- The map without entries. -/
def empty : KeyMap α := ⟨[], List.Pairwise.nil⟩

instance : Inhabited (KeyMap α) := ⟨empty⟩

/-- The map with `value` under `key`, whatever stood there before. -/
def insert (m : KeyMap α) (key : String) (value : α) : KeyMap α :=
  ⟨insertEntry key value m.entries, ascending_insertEntry m.ascending⟩

/-- The value under a key. -/
def get? (m : KeyMap α) (key : String) : Option α :=
  m.entries.lookup key

/-- Is there a value under the key? -/
def contains (m : KeyMap α) (key : String) : Bool :=
  (m.get? key).isSome

/-- The keys, in ascending order. -/
def keys (m : KeyMap α) : List String :=
  m.entries.map (·.1)

/-- The number of entries. -/
def size (m : KeyMap α) : Nat :=
  m.entries.length

/-- The map built by inserting the entries one after the other, so that of two equal keys the
later one wins. -/
def ofList (entries : List (String × α)) : KeyMap α :=
  entries.foldl (fun m e => m.insert e.1 e.2) empty

end KeyMap

end TemplateCheck
