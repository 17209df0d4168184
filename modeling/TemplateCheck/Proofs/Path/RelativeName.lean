import TemplateCheck.Proofs.Path.Descend

/-!
# Relative names

The relative name of a file is what is left of its path when the root is taken away, with a slash
for each backslash.

* `Path.stripPrefix?_descend` — taking away the root leaves the names, for every spelling of the
  root;
* `Path.relativeName_descend` — the relative name is the names with a slash between each two, and a
  slash for each backslash;
* `Path.Plain` — a path below a root by file names without backslashes;
* `Path.components_join_relativeName_iff` — such a path, and no other one, is told by its relative
  name.
-/

namespace TemplateCheck.Path

/-! ### Taking away the root -/

/-- Segments whose components are given can be taken away from the front. -/
theorem afterPrefix_append (pieces rest : List String) :
    ∃ left, afterPrefix (pieces.filterMap Component.ofSegment?) (pieces ++ rest) = some left ∧
      left.dropWhile isIdle = rest.dropWhile isIdle := by
  induction pieces with
  | nil => exact ⟨rest, by simp [afterPrefix], rfl⟩
  | cons piece pieces ih =>
    obtain ⟨left, hleft, hdrop⟩ := ih
    cases hpiece : Component.ofSegment? piece with
    | some part =>
      refine ⟨left, ?_, hdrop⟩
      rw [List.filterMap_cons, hpiece, List.cons_append, afterPrefix, hpiece]
      simpa using hleft
    | none =>
      rw [List.filterMap_cons, hpiece, List.cons_append]
      cases hparts : pieces.filterMap Component.ofSegment? with
      | nil =>
        -- nothing is left to take away, and the idle segment is dropped with those behind it
        rw [hparts, afterPrefix] at hleft
        obtain rfl := Option.some.inj hleft
        refine ⟨piece :: (pieces ++ rest), by rw [afterPrefix], ?_⟩
        rw [List.dropWhile_cons, if_pos (isIdle_of_ofSegment? hpiece), hdrop]
      | cons part parts =>
        refine ⟨left, ?_, hdrop⟩
        rw [afterPrefix, hpiece, ← hparts]
        exact hleft

/-- Segments without idle ones at the two ends stay as they are. -/
structure IsTrimmed (pieces : List String) : Prop where
  front : pieces.dropWhile isIdle = pieces
  back : (pieces.reverse.dropWhile isIdle).reverse = pieces

theorem stripPrefix?_rest (pieces rest : List String) (h : IsTrimmed rest) :
    stripPrefix?.rest (pieces.filterMap Component.ofSegment?) (pieces ++ rest)
      (fun ps => (ps.reverse.dropWhile isIdle).reverse) = some (ofSegments rest) := by
  obtain ⟨left, hleft, hdrop⟩ := afterPrefix_append pieces rest
  rw [stripPrefix?.rest, hleft, Option.map_some, hdrop, h.front, h.back]

theorem isTrimmed_of_isFileName {names : List String} (h : ∀ n ∈ names, IsFileName n) :
    IsTrimmed names where
  front := by
    cases names with
    | nil => rfl
    | cons n names =>
      rw [List.dropWhile_cons, (h n List.mem_cons_self).isNormal.not_isIdle]
      rfl
  back := by
    cases hrev : names.reverse with
    | nil => rw [List.reverse_eq_nil_iff.mp hrev]; rfl
    | cons n before =>
      have hn : n ∈ names := List.mem_reverse.mp (hrev ▸ List.mem_cons_self)
      rw [List.dropWhile_cons, (h n hn).isNormal.not_isIdle, if_neg Bool.false_ne_true, ← hrev,
        List.reverse_reverse]

theorem stripPrefix?_of_segments {root path : String} {pieces rest : List String}
    (hroot : root ≠ "") (hfront : front path = front root)
    (hpieces : (segments root).filterMap Component.ofSegment? =
      pieces.filterMap Component.ofSegment?)
    (hhead : pieces.head? = (segments root).head?) (hpath : segments path = pieces ++ rest)
    (hrest : IsTrimmed rest) : stripPrefix? root path = some (ofSegments rest) := by
  have hcr : components root = front root ++ pieces.filterMap Component.ofSegment? := by
    rw [components_eq, hpieces]
  have hcp : components path = components root ++ rest.filterMap Component.ofSegment? := by
    rw [components_eq path, hpath, hfront, List.filterMap_append, hcr, List.append_assoc]
  by_cases hf : front root = []
  · rw [hf, List.nil_append] at hcr
    have hgoal : stripPrefix?.rest (components root) (segments path)
        (fun ps => (ps.reverse.dropWhile isIdle).reverse) = some (ofSegments rest) := by
      rw [hcr, hpath]
      exact stripPrefix?_rest pieces rest hrest
    cases hparts : components root with
    | nil => exact absurd hparts (components_ne_nil hroot)
    | cons part parts =>
      have hmem : part ∈ pieces.filterMap Component.ofSegment? := by
        rw [← hcr, hparts]
        exact List.mem_cons_self
      obtain ⟨piece, -, hpiece⟩ := List.mem_filterMap.mp hmem
      rw [stripPrefix?, hcp, hparts]
      rw [hparts] at hgoal
      rcases ofSegment?_eq_some hpiece with rfl | rfl
      · exact hgoal
      · exact hgoal
  · -- where the beginning says something, the first segment says nothing of its own
    obtain ⟨piece, hpiece, hnone⟩ := ofSegment?_of_front hf
    obtain ⟨ps, hps⟩ : ∃ ps, pieces = piece :: ps := by
      cases hp : pieces with
      | nil => rw [hp] at hhead; rw [hpiece] at hhead; simp at hhead
      | cons p ps =>
        rw [hp, hpiece, List.head?_cons] at hhead
        exact ⟨ps, by rw [Option.some.inj hhead]⟩
    rw [hps, List.filterMap_cons, hnone] at hcr
    have hgoal : stripPrefix?.rest (ps.filterMap Component.ofSegment?) ((segments path).drop 1)
        (fun ps => (ps.reverse.dropWhile isIdle).reverse) = some (ofSegments rest) := by
      rw [hpath, hps]
      exact stripPrefix?_rest ps rest hrest
    rcases front_cases root with h | h | h
    · rw [h] at hcr
      rw [stripPrefix?, hcp, hcr]
      exact hgoal
    · rw [h] at hcr
      rw [stripPrefix?, hcp, hcr]
      exact hgoal
    · exact absurd h hf

/-! ### Relative names -/

/-- Taking away the root leaves the names, for every spelling of the root. -/
theorem stripPrefix?_descend {root : String} {names : List String} (hroot : root ≠ "")
    (h : ∀ n ∈ names, IsFileName n) :
    stripPrefix? root (descend root names) = some (ofSegments names) := by
  cases names with
  | nil =>
    refine stripPrefix?_of_segments hroot rfl rfl rfl ?_ (isTrimmed_of_isFileName h)
    rw [List.append_nil]
    rfl
  | cons name names =>
    refine stripPrefix?_of_segments hroot ?_ (filterMap_segments root) (head?_segments root).symm
      (segments_descend hroot (isNormal_of_isFileName h)) (isTrimmed_of_isFileName h)
    rw [descend_cons_eq_below hroot (isNormal_of_isFileName h), front_below _ hroot]

/-- A text with a slash for each backslash. -/
def slashed (s : String) : String :=
  String.ofList (s.toList.map fun c => if c == '\\' then '/' else c)

/-- The relative name of what some names lead to is these names with a slash between each two, and
a slash for each backslash. -/
theorem relativeName_descend {root : String} {names : List String} (hroot : root ≠ "")
    (h : ∀ n ∈ names, IsFileName n) :
    relativeName root (descend root names) = slashed (ofSegments names) := by
  rw [relativeName, stripPrefix?_descend hroot h]
  rfl

/-- Only the root itself has an empty relative name. -/
theorem relativeName_eq_empty_iff {root : String} {names : List String} (hroot : root ≠ "")
    (h : ∀ n ∈ names, IsFileName n) :
    relativeName root (descend root names) = "" ↔ names = [] := by
  rw [relativeName_descend hroot h]
  constructor
  · intro hempty
    have hnames : ofSegments names = ofSegments [] := by
      have hlist := congrArg String.toList hempty
      rw [slashed, String.toList_ofList, String.toList_empty, List.map_eq_nil_iff] at hlist
      exact String.toList_inj.mp hlist
    exact ofSegments_inj (isNormal_of_isFileName h) (by simp) hnames
  · rintro rfl
    rfl

/-! ### Backslashes -/

/-- A path leads from a root by file names without backslashes. -/
def Plain (root path : String) : Prop :=
  ∃ names, path = descend root names ∧ ∀ n ∈ names, IsFileName n ∧ '\\' ∉ n.toList

theorem slashed_of_notMem {s : String} (h : '\\' ∉ s.toList) : slashed s = s := by
  have hsame : ∀ c ∈ s.toList, (if c == '\\' then '/' else c) = c := by
    intro c hc
    have hne : c ≠ '\\' := fun heq => h (heq ▸ hc)
    simp [hne]
  rw [slashed, List.map_congr_left hsame, List.map_id', String.ofList_toList]

theorem notMem_slashed (s : String) : '\\' ∉ (slashed s).toList := by
  rw [slashed, String.toList_ofList, List.mem_map]
  rintro ⟨c, -, hc⟩
  split at hc
  · simp at hc
  · rename_i hne
    simp [hc] at hne

theorem notMem_of_mem_segments {c : Char} (hc : c ≠ '/') {s piece : String}
    (hpiece : piece ∈ segments s) (h : c ∉ s.toList) : c ∉ piece.toList := by
  intro hmem
  obtain ⟨p, hp, rfl⟩ := List.mem_map.mp hpiece
  rw [String.toList_ofList] at hmem
  rw [← joinSlash_splitSlash s.toList, mem_joinSlash_iff hc] at h
  exact h ⟨p, hp, hmem⟩

/-! ### Names that lead back -/

variable {root : String} {names : List String}

theorem plain_descend_iff (hroot : root ≠ "") (h : ∀ n ∈ names, IsFileName n) :
    Plain root (descend root names) ↔ ∀ n ∈ names, '\\' ∉ n.toList := by
  constructor
  · rintro ⟨names', heq, hnames'⟩ n hn
    obtain rfl := descend_inj hroot (isNormal_of_isFileName h)
      (fun n hn => (hnames' n hn).1.isNormal) heq
    exact (hnames' n hn).2
  · intro hplain
    exact ⟨names, rfl, fun n hn => ⟨h n hn, hplain n hn⟩⟩

/-- Without backslashes the relative name is made of the names themselves. -/
theorem relativeName_of_plain (hroot : root ≠ "") (h : ∀ n ∈ names, IsFileName n)
    (hplain : ∀ n ∈ names, '\\' ∉ n.toList) :
    relativeName root (descend root names) = ofSegments names := by
  rw [relativeName_descend hroot h, slashed_of_notMem]
  rw [mem_ofSegments_iff (by decide)]
  rintro ⟨n, hn, hmem⟩
  exact hplain n hn hmem

/-- The relative name of a path that is not the root itself leads back to it, by the same text. -/
theorem join_relativeName_of_plain (hroot : root ≠ "") (h : ∀ n ∈ names, IsFileName n)
    (hplain : ∀ n ∈ names, '\\' ∉ n.toList) (hne : names ≠ []) :
    join root (relativeName root (descend root names)) = descend root names := by
  rw [relativeName_of_plain hroot h hplain]
  cases names with
  | nil => exact absurd rfl hne
  | cons name rest => exact join_ofSegments hroot (isNormal_of_isFileName h)

theorem components_join_empty (hroot : root ≠ "") :
    components (join root "") = components root := by
  rw [join_eq_below hroot rfl, components_below _ hroot]
  exact List.append_nil _

/-- The relative name of a path leads back to it, component by component, just if no file name on
the way holds a backslash. -/
theorem components_join_relativeName_iff (hroot : root ≠ "") (h : ∀ n ∈ names, IsFileName n) :
    components (join root (relativeName root (descend root names))) =
      components (descend root names) ↔ ∀ n ∈ names, '\\' ∉ n.toList := by
  constructor
  · intro heq n hn
    rw [relativeName_descend hroot h, components_descend hroot (isNormal_of_isFileName h)] at heq
    have hname : Component.name n ∈ names.map Component.name := List.mem_map_of_mem hn
    suffices hmem : n ∈ segments (slashed (ofSegments names)) from
      notMem_of_mem_segments (by decide) hmem (notMem_slashed _)
    cases habsolute : isAbsolute (slashed (ofSegments names)) with
    | true =>
      -- what begins with a slash takes the place of the root
      rw [join, if_pos habsolute] at heq
      exact (name_mem_components_iff.mp (heq ▸ List.mem_append_right _ hname)).1
    | false =>
      rw [join_eq_below hroot habsolute, components_below _ hroot,
        List.append_cancel_left_eq] at heq
      exact (name_mem_filterMap_iff.mp (heq ▸ hname)).1
  · intro hplain
    by_cases hne : names = []
    · subst hne
      rw [relativeName_of_plain hroot h hplain]
      exact components_join_empty hroot
    · rw [join_relativeName_of_plain hroot h hplain hne]

end TemplateCheck.Path
