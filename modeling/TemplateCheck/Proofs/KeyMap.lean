import TemplateCheck.KeyMap.Basic
import Mathlib.Data.List.Sort

/-!
# Maps are determined by their lookups

* `KeyMap.get?_insert`, `KeyMap.get?_ofList` — what is found after insertions: the last one under a
  key counts;
* `KeyMap.get?_ofList_map` — what is found where every value is replaced;
* `KeyMap.mem_entries_iff`, `KeyMap.mem_keys_iff` — entries and keys are what can be found;
* `KeyMap.keys_sublist` — more keys leave those that are there in their places;
* `KeyMap.ext_get?` — two maps in which the same is found are equal.
-/

namespace TemplateCheck

/-! ### Lookups in lists of entries -/

theorem lookup_cons_eq {α : Type} (k key : String) (v : α) (entries : List (String × α)) :
    ((key, v) :: entries).lookup k = if k = key then some v else entries.lookup k := by
  rw [List.lookup_cons]
  by_cases h : k = key
  · rw [if_pos h, beq_iff_eq.mpr h]
  · rw [if_neg h, beq_eq_false_iff_ne.mpr h]

theorem mem_of_lookup {α : Type} {k : String} {v : α} {entries : List (String × α)}
    (h : entries.lookup k = some v) : (k, v) ∈ entries := by
  induction entries with
  | nil => simp at h
  | cons e entries ih =>
    obtain ⟨key, w⟩ := e
    rw [lookup_cons_eq] at h
    split at h
    · rename_i hk
      rw [hk, Option.some.inj h]
      exact List.mem_cons_self
    · exact List.mem_cons_of_mem _ (ih h)

/-- Where no key stands twice, an entry is what its key leads to. -/
theorem lookup_of_mem {α : Type} {k : String} {v : α} {entries : List (String × α)}
    (hkeys : (entries.map (·.1)).Nodup) (h : (k, v) ∈ entries) : entries.lookup k = some v := by
  induction entries with
  | nil => simp at h
  | cons e entries ih =>
    obtain ⟨key, w⟩ := e
    obtain ⟨hkey, hrest⟩ := List.nodup_cons.mp hkeys
    rw [lookup_cons_eq]
    rcases List.mem_cons.mp h with heq | hmem
    · obtain ⟨rfl, rfl⟩ := Prod.mk.inj heq
      rw [if_pos rfl]
    · rw [if_neg, ih hrest hmem]
      rintro rfl
      exact hkey (List.mem_map.mpr ⟨(k, v), hmem, rfl⟩)

/-- In ascending order no key stands twice. -/
theorem nodup_keys_of_ascending {α : Type} {entries : List (String × α)} (h : Ascending entries) :
    (entries.map (·.1)).Nodup := by
  apply List.Pairwise.imp _ (List.pairwise_map.mpr h)
  intro a b hlt heq
  exact String.lt_irrefl a (heq ▸ hlt)

theorem lookup_insertEntry {α : Type} (k key : String) (v : α) (entries : List (String × α)) :
    (insertEntry key v entries).lookup k = if k = key then some v else entries.lookup k := by
  induction entries with
  | nil => rw [insertEntry, lookup_cons_eq]
  | cons e entries ih =>
    obtain ⟨key', w⟩ := e
    rw [insertEntry]
    split
    · rw [lookup_cons_eq]
    · rename_i hnot
      split
      · rename_i hlt
        rw [lookup_cons_eq, ih, lookup_cons_eq]
        by_cases hk : k = key'
        · rw [if_pos hk, if_pos hk, if_neg]
          rintro rfl
          exact String.lt_irrefl _ (hk ▸ hlt)
        · rw [if_neg hk, if_neg hk]
      · rename_i hnot'
        obtain rfl := eq_of_not_lt hnot hnot'
        rw [lookup_cons_eq, lookup_cons_eq]
        by_cases hk : k = key
        · rw [if_pos hk, if_pos hk]
        · rw [if_neg hk, if_neg hk, if_neg hk]

theorem lookup_filter {α : Type} (p : String → Bool) (entries : List (String × α)) (k : String) :
    (entries.filter fun e => p e.1).lookup k = if p k then entries.lookup k else none := by
  induction entries with
  | nil => simp
  | cons e entries ih =>
    obtain ⟨key, v⟩ := e
    rw [List.filter_cons, lookup_cons_eq]
    by_cases hk : k = key
    · subst hk
      cases hp : p k with
      | true => rw [if_pos rfl, if_pos rfl, if_pos rfl, lookup_cons_eq, if_pos rfl]
      | false => simp [ih, hp]
    · cases hp : p key with
      | true => rw [if_pos rfl, lookup_cons_eq, if_neg hk, if_neg hk, ih]
      | false => simp [ih, hk]

theorem lookup_map {α β : Type} (k : α → String) (v : α → β) (as : List α) (name : String) :
    (as.map fun a => (k a, v a)).lookup name = (as.find? (k · == name)).map v := by
  induction as with
  | nil => rfl
  | cons a as ih =>
    rw [List.map_cons, lookup_cons_eq, List.find?_cons]
    by_cases hk : k a = name
    · rw [if_pos hk.symm, beq_iff_eq.mpr hk, Option.map_some]
    · rw [if_neg (Ne.symm hk), beq_eq_false_iff_ne.mpr hk, ih]

/-! ### Maps -/

namespace KeyMap

variable {α : Type}

@[simp] theorem get?_empty (k : String) : (empty : KeyMap α).get? k = none := rfl

theorem get?_insert (m : KeyMap α) (key k : String) (v : α) :
    (m.insert key v).get? k = if k = key then some v else m.get? k :=
  lookup_insertEntry k key v m.entries

theorem mem_entries_iff (m : KeyMap α) (k : String) (v : α) :
    (k, v) ∈ m.entries ↔ m.get? k = some v :=
  ⟨lookup_of_mem (nodup_keys_of_ascending m.ascending), mem_of_lookup⟩

theorem mem_keys_iff (m : KeyMap α) (k : String) : k ∈ m.keys ↔ (m.get? k).isSome := by
  rw [keys, List.mem_map, Option.isSome_iff_exists]
  constructor
  · rintro ⟨⟨key, v⟩, hmem, rfl⟩
    exact ⟨v, (m.mem_entries_iff key v).mp hmem⟩
  · rintro ⟨v, h⟩
    exact ⟨(k, v), (m.mem_entries_iff k v).mpr h, rfl⟩

/-- The keys of a map stand in strictly ascending order. -/
theorem pairwise_keys (m : KeyMap α) : m.keys.Pairwise (· < ·) :=
  List.pairwise_map.mpr m.ascending

/-- The keys of a map stand among more keys as they stand in the map. -/
theorem keys_sublist {β : Type} {m : KeyMap α} {n : KeyMap β} (h : m.keys ⊆ n.keys) :
    m.keys.Sublist n.keys :=
  List.sublist_of_subperm_of_pairwise
    (List.subperm_of_subset (nodup_keys_of_ascending m.ascending) h) m.pairwise_keys n.pairwise_keys

/-- Two maps in which the same is found are equal. -/
theorem ext_get? {m n : KeyMap α} (h : ∀ k, m.get? k = n.get? k) : m = n := by
  have : Std.Irrefl fun a b : String × α => a.1 < b.1 := ⟨fun a => String.lt_irrefl a.1⟩
  have : Std.Asymm fun a b : String × α => a.1 < b.1 := ⟨fun _ _ => String.lt_asymm⟩
  have hentries : m.entries = n.entries := by
    refine List.Pairwise.eq_of_mem_iff m.ascending n.ascending fun e => ?_
    rw [mem_entries_iff m e.1 e.2, mem_entries_iff n e.1 e.2, h]
  obtain ⟨_, _⟩ := m
  obtain ⟨_, _⟩ := n
  cases hentries
  rfl

theorem get?_foldl_insert (entries : List (String × α)) (m : KeyMap α) (k : String) :
    (entries.foldl (fun m e => m.insert e.1 e.2) m).get? k =
      (entries.reverse.lookup k).or (m.get? k) := by
  induction entries generalizing m with
  | nil => rfl
  | cons e entries ih =>
    rw [List.foldl_cons, ih, get?_insert, List.reverse_cons, List.lookup_append, lookup_cons_eq,
      Option.or_assoc]
    congr 1
    by_cases hk : k = e.1
    · rw [if_pos hk, if_pos hk, Option.some_or]
    · rw [if_neg hk, if_neg hk, List.lookup_nil, Option.none_or]

/-- Of the entries under one key the last one counts. -/
theorem get?_ofList (entries : List (String × α)) (k : String) :
    (ofList entries).get? k = entries.reverse.lookup k := by
  rw [ofList, get?_foldl_insert, get?_empty, Option.or_none]

/-- Where every value of a map is replaced, the one that is found is. -/
theorem get?_ofList_map {β : Type} (m : KeyMap α) (f : α → β) (k : String) :
    (ofList (m.entries.map fun e => (e.1, f e.2))).get? k = (m.get? k).map f := by
  rw [get?_ofList]
  cases hfound : (m.entries.map fun e => (e.1, f e.2)).reverse.lookup k with
  | some w =>
    obtain ⟨⟨_, v⟩, hmem, heq⟩ := List.mem_map.mp (List.mem_reverse.mp (mem_of_lookup hfound))
    obtain ⟨rfl, rfl⟩ := Prod.mk.inj heq
    rw [(m.mem_entries_iff _ v).mp hmem, Option.map_some]
  | none =>
    cases hkept : m.get? k with
    | none => rfl
    | some v =>
      have hmem : (k, f v) ∈ (m.entries.map fun e => (e.1, f e.2)).reverse :=
        List.mem_reverse.mpr (List.mem_map.mpr ⟨(k, v), (m.mem_entries_iff k v).mpr hkept, rfl⟩)
      have hne := List.lookup_eq_none_iff.mp hfound (k, f v) hmem
      simp at hne

end KeyMap

end TemplateCheck
