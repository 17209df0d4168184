import TemplateCheck.Proofs.Path.Components

/-!
# Paths below a root

A walk makes the path of a file by joining one name after the other to the root.

* `Path.descend` — the path of what some names lead to;
* `Path.segments_descend`, `Path.components_descend` — it spells the root, then the names;
* `Path.join_ofSegments` — joining all names in one go gives the same path;
* `Path.descend_inj` — different names give different paths.
-/

namespace TemplateCheck.Path

/-! ### Descending from a root -/

/-- The path of what some names lead to from a root. -/
def descend (root : String) (names : List String) : String :=
  names.foldl join root

theorem toList_ofSegments (pieces : List String) :
    (ofSegments pieces).toList = joinSlash (pieces.map String.toList) := by
  rw [ofSegments, String.toList_ofList]

theorem mem_ofSegments_iff {c : Char} (hc : c ≠ '/') (pieces : List String) :
    c ∈ (ofSegments pieces).toList ↔ ∃ p ∈ pieces, c ∈ p.toList := by
  rw [toList_ofSegments, mem_joinSlash_iff hc]
  simp

theorem toList_ofSegments_cons (name next : String) (names : List String) :
    (ofSegments (name :: next :: names)).toList =
      name.toList ++ '/' :: (ofSegments (next :: names)).toList := by
  rw [toList_ofSegments, toList_ofSegments]
  rfl

theorem ofSegments_singleton (name : String) : ofSegments [name] = name := by
  rw [ofSegments, List.map_cons, List.map_nil, joinSlash, String.ofList_toList]

/-- Texts without slashes can be read off their joined form. -/
theorem segments_ofSegments {name : String} {names : List String}
    (h : ∀ n ∈ name :: names, '/' ∉ n.toList) :
    segments (ofSegments (name :: names)) = name :: names := by
  have hslash : ∀ p ∈ (name :: names).map String.toList, '/' ∉ p := by
    intro p hp
    obtain ⟨n, hn, rfl⟩ := List.mem_map.mp hp
    exact h n hn
  rw [segments, toList_ofSegments, List.map_cons, splitSlash_joinSlash hslash, ← List.map_cons,
    List.map_map]
  simp [Function.comp_def]

theorem isAbsolute_ofSegments {names : List String} (h : ∀ n ∈ names, IsNormal n) :
    isAbsolute (ofSegments names) = false := by
  cases names with
  | nil => rfl
  | cons name names =>
    have hname := h name List.mem_cons_self
    have hhead : (ofSegments (name :: names)).toList.head? = name.toList.head? := by
      cases names with
      | nil => rw [ofSegments_singleton]
      | cons next names =>
        rw [toList_ofSegments_cons, List.head?_append_of_ne_nil _ hname.toList_ne_nil]
    rw [isAbsolute, hhead]
    exact hname.not_isAbsolute

theorem below_ne_empty (root s : String) : below root s ≠ "" := by
  intro h
  have := congrArg String.toList h
  simp [below] at this

theorem trunk_below {root name : String} (h : IsNormal name) :
    trunk (below root name) = (below root name).toList := by
  refine (toList_eq_trunk fun hlast => ?_).symm
  rw [below, String.toList_ofList, List.getLast?_append, List.getLast?_cons] at hlast
  cases hname : name.toList.getLast? with
  | none => exact h.toList_ne_nil (List.getLast?_eq_none_iff.mp hname)
  | some c => exact h.getLast?_ne_slash (by simpa [hname] using hlast)

/-- What some names lead to has the path of the root, then the names with a slash between each
two. -/
theorem descend_cons_eq_below {root name : String} {names : List String} (hroot : root ≠ "")
    (h : ∀ n ∈ name :: names, IsNormal n) :
    descend root (name :: names) = below root (ofSegments (name :: names)) := by
  have hname := h name List.mem_cons_self
  have hjoin := join_eq_below hroot hname.not_isAbsolute
  induction names generalizing root name with
  | nil => rw [ofSegments_singleton]; exact hjoin
  | cons next names ih =>
    have hrest : ∀ n ∈ next :: names, IsNormal n := fun n hn => h n (List.mem_cons_of_mem _ hn)
    have hnext := hrest next List.mem_cons_self
    rw [descend, List.foldl_cons, hjoin]
    refine (ih (below_ne_empty root name) hrest hnext
      (join_eq_below (below_ne_empty root name) hnext.not_isAbsolute)).trans ?_
    apply String.toList_inj.mp
    rw [below, String.toList_ofList, trunk_below hname, below, below, String.toList_ofList,
      String.toList_ofList, toList_ofSegments_cons name next]
    simp

/-- Joining the names to the root in one go gives the same path. -/
theorem join_ofSegments {root name : String} {names : List String} (hroot : root ≠ "")
    (h : ∀ n ∈ name :: names, IsNormal n) :
    join root (ofSegments (name :: names)) = descend root (name :: names) := by
  rw [descend_cons_eq_below hroot h, join_eq_below hroot (isAbsolute_ofSegments h)]

theorem segments_descend {root name : String} {names : List String} (hroot : root ≠ "")
    (h : ∀ n ∈ name :: names, IsNormal n) :
    segments (descend root (name :: names)) = rootSegments root ++ name :: names := by
  rw [descend_cons_eq_below hroot h, segments_below,
    segments_ofSegments fun n hn => (h n hn).no_slash]

/-- What some names lead to has the components of the root, then those names. -/
theorem components_descend {root : String} {names : List String} (hroot : root ≠ "")
    (h : ∀ n ∈ names, IsNormal n) :
    components (descend root names) = components root ++ names.map .name := by
  cases names with
  | nil => simp [descend]
  | cons name names =>
    rw [descend_cons_eq_below hroot h, components_below _ hroot,
      segments_ofSegments fun n hn => (h n hn).no_slash,
      filterMap_ofSegment? h]

/-- The file name of what some names lead to is the last of them. -/
theorem fileName?_descend {root : String} {names : List String} (hroot : root ≠ "")
    (h : ∀ n ∈ names, IsNormal n) (hne : names ≠ []) :
    fileName? (descend root names) = names.getLast? := by
  rw [fileName?, components_descend hroot h,
    List.getLast?_append_of_ne_nil _ (by simpa using hne), List.getLast?_map]
  cases names.getLast? with
  | none => rfl
  | some name => rfl

theorem mem_of_mem_trunk {c : Char} {root : String} (h : c ∈ trunk root) : c ∈ root.toList := by
  rw [trunk] at h
  split at h
  · exact List.dropLast_subset _ h
  · exact h

/-- A character of what some names lead to is one of the root or of a name, unless it is a slash. -/
theorem mem_descend {c : Char} (hc : c ≠ '/') {root : String} {names : List String}
    (hroot : root ≠ "") (h : ∀ n ∈ names, IsNormal n) (hmem : c ∈ (descend root names).toList) :
    c ∈ root.toList ∨ ∃ n ∈ names, c ∈ n.toList := by
  cases names with
  | nil => exact .inl hmem
  | cons name names =>
    rw [descend_cons_eq_below hroot h, below, String.toList_ofList, List.mem_append, List.mem_cons,
      or_iff_right hc, mem_ofSegments_iff hc] at hmem
    exact hmem.imp_left mem_of_mem_trunk

/-- Names can be told from their joined form. -/
theorem ofSegments_inj {names names' : List String} (h : ∀ n ∈ names, IsNormal n)
    (h' : ∀ n ∈ names', IsNormal n) (heq : ofSegments names = ofSegments names') :
    names = names' := by
  have hempty : ∀ {name : String} {rest : List String}, (∀ n ∈ name :: rest, IsNormal n) →
      ofSegments (name :: rest) ≠ ofSegments [] := by
    intro name rest hnames hsame
    have hsegments := segments_ofSegments fun n hn => (hnames n hn).no_slash
    rw [hsame] at hsegments
    exact (hnames name List.mem_cons_self).ne_empty (List.cons.inj hsegments).1.symm
  cases names with
  | nil =>
    cases names' with
    | nil => rfl
    | cons name' rest' => exact absurd heq.symm (hempty h')
  | cons name rest =>
    cases names' with
    | nil => exact absurd heq (hempty h)
    | cons name' rest' =>
      rw [← segments_ofSegments fun n hn => (h n hn).no_slash, heq,
        segments_ofSegments fun n hn => (h' n hn).no_slash]

theorem descend_inj {root : String} (hroot : root ≠ "") {names names' : List String}
    (h : ∀ n ∈ names, IsNormal n)
    (h' : ∀ n ∈ names', IsNormal n) (heq : descend root names = descend root names') :
    names = names' := by
  have hcomponents := congrArg components heq
  rw [components_descend hroot h, components_descend hroot h', List.append_cancel_left_eq]
    at hcomponents
  exact List.map_injective_iff.mpr (fun _ _ => Component.name.inj) hcomponents

end TemplateCheck.Path
