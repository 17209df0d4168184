import TemplateCheck.KeyValues.Basic

/-!
# Key/value lists in a row

Where one of two lists is empty, extending yields the other one itself and no new list. This shows
in the labels alone. What the lists hold, and what they make of a model, is the same as if every
result had been written out entry by entry, and no list ever changes, however often it is handed on.

* `KeyValues.applyOverrides_extend`, `KeyValues.applyDefaults_extend` — two lists in a row are laid
  over a model one after the other;
* `Labelled.extend_cases`, `Labelled.append_cases` — a result is an operand or has a label of its
  own;
* `Labelled.Made` — the lists that some operations have made, in any order and number;
* `Labelled.Made.eq_of_same` — in all of them a label stands for one list;
* `Labelled.lists_compose` — the laws of lists in a row.
-/

namespace TemplateCheck

namespace KeyValues

theorem extend_assoc (a b c : KeyValues) : (a.extend b).extend c = a.extend (b.extend c) :=
  congrArg mk (List.append_assoc _ _ _)

@[simp] theorem empty_extend (a : KeyValues) : empty.extend a = a := rfl

@[simp] theorem extend_empty (a : KeyValues) : a.extend empty = a :=
  congrArg mk (List.append_nil _)

theorem applyOverrides_extend (a b : KeyValues) (m : Model) :
    (a.extend b).applyOverrides m = b.applyOverrides (a.applyOverrides m) :=
  List.foldl_append

theorem applyDefaults_extend (a b : KeyValues) (m : Model) :
    (a.extend b).applyDefaults m = b.applyDefaults (a.applyDefaults m) :=
  List.foldl_append

end KeyValues

namespace Labelled

/-! ### Results and their labels -/

theorem extend_of_isEmpty (fresh : Nat) {a b : Labelled} (h : a.list.isEmpty = true) :
    extend fresh a b = b :=
  if_pos h

/-- What is made of a list and another one is the second one, the first one, or new. -/
theorem extend_cases (fresh : Nat) (a b : Labelled) :
    a.list.isEmpty = true ∧ extend fresh a b = b ∨
      a.list.isEmpty = false ∧ b.list.isEmpty = true ∧ extend fresh a b = a ∨
      a.list.isEmpty = false ∧ b.list.isEmpty = false ∧
        extend fresh a b = ⟨fresh, a.list.extend b.list⟩ := by
  rw [extend]
  cases a.list.isEmpty with
  | true => exact .inl ⟨rfl, rfl⟩
  | false =>
    cases b.list.isEmpty with
    | true => exact .inr (.inl ⟨rfl, rfl, rfl⟩)
    | false => exact .inr (.inr ⟨rfl, rfl, rfl⟩)

/-- What is made of a list and the entries of a model is the list, or new. -/
theorem append_cases (fresh : Nat) (a : Labelled) (more : Model) :
    more.entries = [] ∧ append fresh a more = a ∨
      more.entries ≠ [] ∧ append fresh a more = ⟨fresh, a.list.append more⟩ := by
  rw [append]
  cases more.entries with
  | nil => exact .inl ⟨rfl, rfl⟩
  | cons e entries => exact .inr ⟨List.cons_ne_nil e entries, rfl⟩

theorem list_append (fresh : Nat) (a : Labelled) (more : Model) :
    (append fresh a more).list = a.list.append more := by
  rcases append_cases fresh a more with ⟨hempty, happend⟩ | ⟨-, happend⟩
  · have hmodel : KeyValues.ofModel more = .empty := by
      rw [KeyValues.ofModel, hempty]
      rfl
    rw [happend, KeyValues.append, hmodel, KeyValues.extend_empty]
  · rw [happend]

/-- The list of the entries of a model: they are appended to an empty list. -/
def ofModel (fresh : Nat) (more : Model) : Labelled :=
  append fresh ⟨fresh, .empty⟩ more

theorem list_ofModel (fresh : Nat) (more : Model) : (ofModel fresh more).list = .ofModel more := by
  rw [ofModel, list_append, KeyValues.append, KeyValues.empty_extend]

/-! ### Histories -/

/-- The lists that some operations have made, in this order. The number of those made so far serves
as the label of a new one. -/
inductive Made : List Labelled → Prop where
  | none : Made []
  | pairs {made : List Labelled} (h : Made made) (entries : List (String × Json)) :
    Made (made ++ [⟨made.length, .ofPairs entries⟩])
  | model {made : List Labelled} (h : Made made) (more : Model) :
    Made (made ++ [ofModel made.length more])
  | append {made : List Labelled} {a : Labelled} (h : Made made) (ha : a ∈ made) (more : Model) :
    Made (made ++ [append made.length a more])
  | extend {made : List Labelled} {a b : Labelled} (h : Made made) (ha : a ∈ made) (hb : b ∈ made) :
    Made (made ++ [extend made.length a b])

variable {made : List Labelled} {a b : Labelled}

/-- Does the label of every list lead to the place where the list was made? -/
def Rooted (made : List Labelled) : Prop :=
  ∀ l ∈ made, made[l.label]? = some l

/-- One more list, new or handed on, leaves the labels as they are. -/
theorem Rooted.concat (h : Rooted made) (hnew : a ∈ made ∨ a.label = made.length) :
    Rooted (made ++ [a]) := by
  intro l hl
  rcases List.mem_append.mp hl with hl | hl
  · have hlabel := h l hl
    obtain ⟨hlt, -⟩ := List.getElem?_eq_some_iff.mp hlabel
    rw [List.getElem?_append_left hlt, hlabel]
  · obtain rfl := List.mem_singleton.mp hl
    rcases hnew with hold | hfresh
    · have hlabel := h l hold
      obtain ⟨hlt, -⟩ := List.getElem?_eq_some_iff.mp hlabel
      rw [List.getElem?_append_left hlt, hlabel]
    · rw [hfresh, List.getElem?_concat_length]

theorem Made.rooted (h : Made made) : Rooted made := by
  induction h with
  | none => exact fun l hl => absurd hl List.not_mem_nil
  | pairs h entries ih => exact ih.concat (.inr rfl)
  | @model made h more ih =>
    refine ih.concat (.inr ?_)
    rcases append_cases made.length ⟨made.length, .empty⟩ more with ⟨-, hmodel⟩ | ⟨-, hmodel⟩
    · rw [ofModel, hmodel]
    · rw [ofModel, hmodel]
  | @append made a h ha more ih =>
    refine ih.concat ?_
    rcases append_cases made.length a more with ⟨-, happend⟩ | ⟨-, happend⟩
    · exact .inl (by rwa [happend])
    · exact .inr (by rw [happend])
  | @extend made a b h ha hb ih =>
    refine ih.concat ?_
    rcases extend_cases made.length a b with ⟨-, hextend⟩ | ⟨-, -, hextend⟩ | ⟨-, -, hextend⟩
    · exact .inl (by rwa [hextend])
    · exact .inl (by rwa [hextend])
    · exact .inr (by rw [hextend])

/-- Whatever is done, two lists under one label are one and the same. -/
theorem Made.eq_of_same (h : Made made) (ha : a ∈ made) (hb : b ∈ made) (hsame : a.same b = true) :
    a = b := by
  have hlabel : a.label = b.label := beq_iff_eq.mp hsame
  have hroot := h.rooted a ha
  rw [hlabel, h.rooted b hb] at hroot
  exact (Option.some.inj hroot).symm

/-! ### Laws -/

/-- Lists in a row, under whatever labels the results come: -/
structure Composes (a b c : Labelled) (more m : Model) : Prop where
  /-- the entries of the one, then those of the other; -/
  entries_extend (fresh : Nat) :
    (extend fresh a b).list.entries = a.list.entries ++ b.list.entries
  /-- beside an empty list the other one itself, -/
  extend_left (fresh : Nat) : a.list.isEmpty = true → extend fresh a b = b
  extend_right (fresh : Nat) :
    b.list.isEmpty = true → a.list.isEmpty = false → extend fresh a b = a
  /-- and a new one where both have entries; -/
  label_extend (fresh : Nat) :
    a.list.isEmpty = false → b.list.isEmpty = false → (extend fresh a b).label = fresh
  /-- three in a row, however they are put together; -/
  extend_assoc (f g h k : Nat) :
    (extend f (extend g a b) c).list = (extend h a (extend k b c)).list
  /-- an empty list in front or behind; -/
  empty_extend (f g : Nat) : (extend f ⟨g, .empty⟩ a).list = a.list
  extend_empty (f g : Nat) : (extend f a ⟨g, .empty⟩).list = a.list
  /-- the entries of a model, appended or made a list first; -/
  append_eq (f g h : Nat) : (append f a more).list = (extend g a (ofModel h more)).list
  entries_ofModel (fresh : Nat) :
    (ofModel fresh more).list.entries = more.entries.map fun e => ⟨e.1, e.2⟩
  /-- whatever is made later, what stands under the label of a list is that list; -/
  unchanged (made later : List Labelled) :
    Made (made ++ later) → a ∈ made → ∀ l ∈ made ++ later, l.same a = true → l = a
  /-- two lists in a row lie over a model as one after the other does. -/
  applyOverrides_extend (fresh : Nat) :
    (extend fresh a b).list.applyOverrides m = b.list.applyOverrides (a.list.applyOverrides m)
  applyDefaults_extend (fresh : Nat) :
    (extend fresh a b).list.applyDefaults m = b.list.applyDefaults (a.list.applyDefaults m)

/-- All lists compose, with all models. -/
theorem lists_compose (a b c : Labelled) (more m : Model) : Composes a b c more m where
  entries_extend fresh := by
    rw [list_extend, KeyValues.extend]
  extend_left fresh ha := extend_of_isEmpty fresh ha
  extend_right fresh hb ha := by
    rcases extend_cases fresh a b with ⟨ha', -⟩ | ⟨-, -, hextend⟩ | ⟨-, hb', -⟩
    · rw [ha] at ha'
      cases ha'
    · exact hextend
    · rw [hb] at hb'
      cases hb'
  label_extend fresh ha hb := by
    rcases extend_cases fresh a b with ⟨ha', -⟩ | ⟨-, hb', -⟩ | ⟨-, -, hextend⟩
    · rw [ha] at ha'
      cases ha'
    · rw [hb] at hb'
      cases hb'
    · rw [hextend]
  extend_assoc f g h k := by
    rw [list_extend, list_extend, list_extend, list_extend, KeyValues.extend_assoc]
  empty_extend f g := by
    rw [list_extend, KeyValues.empty_extend]
  extend_empty f g := by
    rw [list_extend, KeyValues.extend_empty]
  append_eq f g h := by
    rw [list_append, list_extend, list_ofModel, KeyValues.append]
  entries_ofModel fresh := by
    rw [list_ofModel, KeyValues.ofModel, KeyValues.ofPairs]
  unchanged made later hmade ha l hl hsame :=
    hmade.eq_of_same hl (List.mem_append_left later ha) hsame
  applyOverrides_extend fresh := by
    rw [list_extend, KeyValues.applyOverrides_extend]
  applyDefaults_extend fresh := by
    rw [list_extend, KeyValues.applyDefaults_extend]

/-- A list with one entry. -/
def region : Labelled := ⟨0, .ofPairs [("region", .str "north")]⟩

/-- Another one, made later. -/
def env : Labelled := ⟨3, .ofPairs [("env", .str "test")]⟩

/-- A list, an empty one, and what is made of the two: the first one once more. -/
def handedOn : List Labelled := [region, ⟨1, .ofPairs []⟩, region]

theorem made_handedOn : Made handedOn :=
  .extend (a := region) (b := ⟨1, .ofPairs []⟩)
    (.pairs (.pairs .none [("region", .str "north")]) [])
    (by simp [region]) (by simp)

/-- A list that was handed on is extended. It stays what it was in both places, and its entry comes
first in the result. -/
theorem lists_compose_handedOn :
    Made (handedOn ++ [env, extend 4 region env]) ∧ region ∈ handedOn ∧
      (∀ l ∈ handedOn ++ [env, extend 4 region env], l.same region = true → l = region) ∧
      (extend 4 region env).list.entries = [⟨"region", .str "north"⟩, ⟨"env", .str "test"⟩] := by
  have henv : Made (handedOn ++ [env]) := .pairs made_handedOn [("env", .str "test")]
  have hmade : Made (handedOn ++ [env] ++ [extend 4 region env]) :=
    henv.extend (by simp [handedOn]) (by simp)
  rw [List.append_assoc] at hmade
  have hregion : region ∈ handedOn := List.mem_cons_self
  have hlaws := lists_compose region env ⟨1, .empty⟩ KeyMap.empty KeyMap.empty
  exact ⟨hmade, hregion, hlaws.unchanged _ _ hmade hregion, hlaws.entries_extend 4⟩

end Labelled

end TemplateCheck
