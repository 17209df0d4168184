import TemplateCheck.Path.Basic
import Mathlib.Data.List.Basic
import Mathlib.Data.List.TakeWhile

/-!
# Segments and components of paths

What a path spells is compared with what it says to do: segments are read off the text, and
components off the segments.

* `Path.splitSlash_joinSlash`, `Path.mem_joinSlash_iff` — pieces can be read off their joined form;
* `Path.IsNormal`, `Path.IsFileName` — what stands for itself in a path, and what can name an entry
  of a directory;
* `Path.splitLast?_eq_some_iff`, `Path.splitLast?_eq_none_iff` — what a text parted at its last mark
  is put together from;
* `Path.below`, `Path.join_eq_below` — a path with something behind it, however it ends;
* `Path.components_below` — the components of the first path, then those of what is behind it.
-/

namespace TemplateCheck.Path

/-! ### Pieces between slashes -/

theorem splitSlash_append_slash (cs ds : List Char) :
    splitSlash (cs ++ '/' :: ds) = splitSlash cs ++ splitSlash ds := by
  induction cs with
  | nil => simp [splitSlash]
  | cons c cs ih =>
    rw [List.cons_append, splitSlash, splitSlash, ih]
    split
    · rfl
    · cases h : splitSlash cs with
      | nil => exact absurd h (splitSlash_ne_nil cs)
      | cons piece pieces => rfl

theorem splitSlash_of_notMem {cs : List Char} (h : '/' ∉ cs) : splitSlash cs = [cs] := by
  induction cs with
  | nil => rfl
  | cons c cs ih =>
    rw [List.mem_cons, not_or] at h
    rw [splitSlash, if_neg (Ne.symm h.1), ih h.2]

theorem slash_notMem_of_mem_splitSlash {cs piece : List Char} (h : piece ∈ splitSlash cs) :
    '/' ∉ piece := by
  induction cs generalizing piece with
  | nil =>
    rw [List.mem_singleton.mp h]
    exact List.not_mem_nil
  | cons c cs ih =>
    rw [splitSlash] at h
    split at h
    · rcases List.mem_cons.mp h with rfl | h
      · exact List.not_mem_nil
      · exact ih h
    · rename_i hc
      cases hsplit : splitSlash cs with
      | nil => exact absurd hsplit (splitSlash_ne_nil cs)
      | cons first pieces =>
        rw [hsplit] at h ih
        rcases List.mem_cons.mp h with rfl | h
        · exact List.not_mem_cons_of_ne_of_not_mem (Ne.symm hc) (ih List.mem_cons_self)
        · exact ih (List.mem_cons_of_mem first h)

/-- Pieces without slashes can be told apart again. -/
theorem splitSlash_joinSlash {piece : List Char} {pieces : List (List Char)}
    (h : ∀ p ∈ piece :: pieces, '/' ∉ p) :
    splitSlash (joinSlash (piece :: pieces)) = piece :: pieces := by
  induction pieces generalizing piece with
  | nil => exact splitSlash_of_notMem (h piece List.mem_cons_self)
  | cons next pieces ih =>
    rw [joinSlash, splitSlash_append_slash, splitSlash_of_notMem (h piece List.mem_cons_self),
      ih fun p hp => h p (List.mem_cons_of_mem _ hp)]
    rfl

theorem mem_joinSlash_iff {c : Char} (hc : c ≠ '/') (pieces : List (List Char)) :
    c ∈ joinSlash pieces ↔ ∃ p ∈ pieces, c ∈ p := by
  induction pieces with
  | nil => simp [joinSlash]
  | cons piece pieces ih =>
    cases pieces with
    | nil => simp [joinSlash]
    | cons next pieces =>
      rw [joinSlash, List.mem_append, List.mem_cons, or_iff_right hc, ih]
      simp

theorem segments_of_notMem {s : String} (h : '/' ∉ s.toList) : segments s = [s] := by
  rw [segments, splitSlash_of_notMem h, List.map_singleton, String.ofList_toList]

theorem slash_notMem_of_mem_segments {path piece : String} (h : piece ∈ segments path) :
    '/' ∉ piece.toList := by
  obtain ⟨cs, hcs, rfl⟩ := List.mem_map.mp h
  rw [String.toList_ofList]
  exact slash_notMem_of_mem_splitSlash hcs

theorem segments_ne_nil (path : String) : segments path ≠ [] := by
  intro h
  exact splitSlash_ne_nil _ (List.map_eq_nil_iff.mp h)

/-! ### The last mark of a text -/

/-- The last mark of a text is the one with no other behind it. -/
theorem splitLast?_eq_some_iff {mark : Char} {s before after : String} :
    splitLast? mark s = some (before, after) ↔
      s.toList = before.toList ++ mark :: after.toList ∧ mark ∉ after.toList := by
  rw [splitLast?]
  constructor
  · intro h
    have hparts := List.takeWhile_append_dropWhile (p := (· ≠ mark)) (l := s.toList.reverse)
    have hhead := List.head?_dropWhile_not (· ≠ mark) s.toList.reverse
    split at h
    · simp at h
    · rename_i c front hdrop
      rw [Option.some.injEq, Prod.mk.injEq] at h
      obtain ⟨rfl, rfl⟩ := h
      rw [hdrop] at hparts hhead
      obtain rfl : c = mark := by simpa using hhead
      have hs := congrArg List.reverse hparts
      rw [List.reverse_append, List.reverse_cons, List.append_assoc, List.reverse_reverse] at hs
      rw [String.toList_ofList, String.toList_ofList]
      refine ⟨hs.symm, fun hmem => ?_⟩
      have hpass := List.mem_takeWhile_imp (List.mem_reverse.mp hmem)
      simp at hpass
  · rintro ⟨hs, hafter⟩
    have hpass : ∀ c ∈ after.toList.reverse, decide (c ≠ mark) = true := by
      intro c hc
      exact decide_eq_true fun heq => hafter (heq ▸ List.mem_reverse.mp hc)
    rw [hs, List.reverse_append, List.reverse_cons, List.append_assoc, List.singleton_append,
      List.dropWhile_append_of_pos hpass, List.takeWhile_append_of_pos hpass]
    simp

/-- A text without the mark is not parted. -/
theorem splitLast?_eq_none_iff {mark : Char} {s : String} :
    splitLast? mark s = none ↔ mark ∉ s.toList := by
  have hdrop : splitLast? mark s = none ↔ s.toList.reverse.dropWhile (· ≠ mark) = [] := by
    rw [splitLast?]
    split <;> simp_all
  rw [hdrop, List.dropWhile_eq_nil_iff]
  constructor
  · intro h hmem
    have hne := h mark (List.mem_reverse.mpr hmem)
    simp at hne
  · intro h c hc
    exact decide_eq_true fun heq => h (heq ▸ List.mem_reverse.mp hc)

/-- What stands in front of a text is before the last mark too. -/
theorem splitLast?_append {mark : Char} {s before after : String} (p : String)
    (h : splitLast? mark s = some (before, after)) :
    splitLast? mark (p ++ s) = some (p ++ before, after) := by
  rw [splitLast?_eq_some_iff] at h ⊢
  rw [String.toList_append, String.toList_append, h.1, List.append_assoc]
  exact ⟨rfl, h.2⟩

/-! ### File names -/

/-- A text that stands for itself between the slashes of a path. -/
structure IsNormal (s : String) : Prop where
  ne_empty : s ≠ ""
  ne_current : s ≠ "."
  ne_parent : s ≠ ".."
  no_slash : '/' ∉ s.toList

theorem IsNormal.toList_ne_nil {s : String} (h : IsNormal s) : s.toList ≠ [] := by
  intro hs
  exact h.ne_empty (String.toList_inj.mp (hs.trans String.toList_empty.symm))

theorem IsNormal.ofSegment? {s : String} (h : IsNormal s) :
    Component.ofSegment? s = some (.name s) := by
  rw [Component.ofSegment?, if_neg (not_or.mpr ⟨h.ne_empty, h.ne_current⟩), if_neg h.ne_parent]

theorem IsNormal.not_isIdle {s : String} (h : IsNormal s) : isIdle s = false := by
  simp [isIdle, h.ne_empty, h.ne_current]

theorem IsNormal.not_isAbsolute {s : String} (h : IsNormal s) : isAbsolute s = false := by
  rw [isAbsolute, beq_eq_false_iff_ne]
  intro hs
  exact h.no_slash (List.mem_of_mem_head? hs)

theorem IsNormal.getLast?_ne_slash {s : String} (h : IsNormal s) :
    s.toList.getLast? ≠ some '/' :=
  fun hs => h.no_slash (List.mem_of_getLast? hs)

/-- A text that can name an entry of a directory. -/
structure IsFileName (s : String) : Prop where
  ne_empty : s ≠ ""
  ne_current : s ≠ "."
  ne_parent : s ≠ ".."
  no_slash : '/' ∉ s.toList
  no_nul : '\x00' ∉ s.toList

instance (s : String) : Decidable (IsFileName s) :=
  decidable_of_iff (s ≠ "" ∧ s ≠ "." ∧ s ≠ ".." ∧ '/' ∉ s.toList ∧ '\x00' ∉ s.toList)
    ⟨fun h => ⟨h.1, h.2.1, h.2.2.1, h.2.2.2.1, h.2.2.2.2⟩,
      fun h => ⟨h.ne_empty, h.ne_current, h.ne_parent, h.no_slash, h.no_nul⟩⟩

theorem IsFileName.isNormal {s : String} (h : IsFileName s) : IsNormal s :=
  ⟨h.ne_empty, h.ne_current, h.ne_parent, h.no_slash⟩

theorem isNormal_of_isFileName {names : List String} (h : ∀ n ∈ names, IsFileName n) :
    ∀ n ∈ names, IsNormal n :=
  fun n hn => (h n hn).isNormal

theorem filterMap_ofSegment? {names : List String} (h : ∀ n ∈ names, IsNormal n) :
    names.filterMap Component.ofSegment? = names.map .name := by
  induction names with
  | nil => rfl
  | cons n names ih =>
    rw [List.filterMap_cons, (h n List.mem_cons_self).ofSegment?, List.map_cons,
      ih fun m hm => h m (List.mem_cons_of_mem _ hm)]

/-! ### Below a root -/

/-- The characters of a root in front of the slash that ends it, if one does. -/
def trunk (root : String) : List Char :=
  if root.toList.getLast? = some '/' then root.toList.dropLast else root.toList

/-- A text behind a root, with one slash between them. -/
def below (root s : String) : String :=
  String.ofList (trunk root ++ '/' :: s.toList)

theorem toList_ne_nil {s : String} (h : s ≠ "") : s.toList ≠ [] :=
  fun hs => h (String.toList_inj.mp (hs.trans String.toList_empty.symm))

theorem toList_eq_trunk_append {root : String} (h : root.toList.getLast? = some '/') :
    root.toList = trunk root ++ ['/'] := by
  rw [trunk, if_pos h]
  exact (List.dropLast_append_getLast? '/' h).symm

theorem toList_eq_trunk {root : String} (h : root.toList.getLast? ≠ some '/') :
    root.toList = trunk root := by
  rw [trunk, if_neg h]

/-- What is joined to a root stands behind exactly one slash more. -/
theorem join_eq_below {root s : String} (hroot : root ≠ "") (hs : isAbsolute s = false) :
    join root s = below root s := by
  apply String.toList_inj.mp
  rw [join, if_neg (by simp [hs]), below, String.toList_ofList]
  cases hlast : root.toList.getLast? with
  | none => exact absurd (List.getLast?_eq_none_iff.mp hlast) (toList_ne_nil hroot)
  | some c =>
    by_cases hc : c = '/'
    · subst hc
      simp [toList_eq_trunk_append hlast]
    · have hne : root.toList.getLast? ≠ some '/' := by
        rw [hlast]
        exact fun h => hc (Option.some.inj h)
      rw [← toList_eq_trunk hne]
      split
      · simp_all
      · rename_i h
        exact absurd (Option.some.inj h) hc
      · simp [String.toList_append]

/-- The segments of a root in front of the slash that ends it, if one does. -/
def rootSegments (root : String) : List String :=
  (splitSlash (trunk root)).map String.ofList

theorem rootSegments_ne_nil (root : String) : rootSegments root ≠ [] := by
  intro h
  exact splitSlash_ne_nil _ (List.map_eq_nil_iff.mp h)

theorem segments_eq_rootSegments (root : String) :
    segments root = rootSegments root ∨ segments root = rootSegments root ++ [""] := by
  by_cases h : root.toList.getLast? = some '/'
  · refine .inr ?_
    rw [segments, toList_eq_trunk_append h, splitSlash_append_slash, List.map_append]
    rfl
  · refine .inl ?_
    rw [segments, toList_eq_trunk h]
    rfl

theorem segments_below (root s : String) :
    segments (below root s) = rootSegments root ++ segments s := by
  rw [segments, below, String.toList_ofList, splitSlash_append_slash, List.map_append]
  rfl

theorem filterMap_segments (root : String) :
    (segments root).filterMap Component.ofSegment? =
      (rootSegments root).filterMap Component.ofSegment? := by
  rcases segments_eq_rootSegments root with h | h
  · rw [h]
  · rw [h, List.filterMap_append]
    exact List.append_nil _

theorem head?_segments (root : String) : (segments root).head? = (rootSegments root).head? := by
  rcases segments_eq_rootSegments root with h | h
  · rw [h]
  · rw [h, List.head?_append_of_ne_nil _ (rootSegments_ne_nil root)]

theorem isAbsolute_below {root : String} (s : String) (hroot : root ≠ "") :
    isAbsolute (below root s) = isAbsolute root := by
  rw [isAbsolute, isAbsolute, below, String.toList_ofList]
  by_cases hlast : root.toList.getLast? = some '/'
  · rw [toList_eq_trunk_append hlast, List.head?_append, List.head?_append]
    rfl
  · rw [← toList_eq_trunk hlast, List.head?_append_of_ne_nil _ (toList_ne_nil hroot)]

/-! ### Components -/

/-- What the beginning of a path says before its segments are looked at. -/
def front (path : String) : List Component :=
  if isAbsolute path then [.root]
  else if (segments path).head? = some "." then [.current]
  else []

theorem components_eq (path : String) :
    components path = front path ++ (segments path).filterMap Component.ofSegment? := rfl

theorem front_below {root : String} (s : String) (hroot : root ≠ "") :
    front (below root s) = front root := by
  rw [front, front, isAbsolute_below s hroot, segments_below, head?_segments,
    List.head?_append_of_ne_nil _ (rootSegments_ne_nil root)]

/-- A text behind a root adds the components of its segments. -/
theorem components_below {root : String} (s : String) (hroot : root ≠ "") :
    components (below root s) =
      components root ++ (segments s).filterMap Component.ofSegment? := by
  rw [components_eq, components_eq, front_below s hroot, segments_below, List.filterMap_append,
    filterMap_segments root, List.append_assoc]

theorem front_cases (path : String) :
    front path = [.root] ∨ front path = [.current] ∨ front path = [] := by
  rw [front]
  split
  · exact .inl rfl
  · split
    · exact .inr (.inl rfl)
    · exact .inr (.inr rfl)

theorem ofSegment?_eq_some {piece : String} {part : Component}
    (h : Component.ofSegment? piece = some part) : part = .parent ∨ part = .name piece := by
  rw [Component.ofSegment?] at h
  split at h
  · simp at h
  · split at h
    · exact .inl (Option.some.inj h).symm
    · exact .inr (Option.some.inj h).symm

theorem name_mem_filterMap_iff {pieces : List String} {name : String} :
    Component.name name ∈ pieces.filterMap Component.ofSegment? ↔
      name ∈ pieces ∧ Component.ofSegment? name = some (.name name) := by
  rw [List.mem_filterMap]
  constructor
  · rintro ⟨piece, hpiece, hname⟩
    rcases ofSegment?_eq_some hname with hparent | hsame
    · simp at hparent
    · obtain rfl := Component.name.inj hsame
      exact ⟨hpiece, hname⟩
  · rintro ⟨hpiece, hname⟩
    exact ⟨name, hpiece, hname⟩

/-- The names among the components of a path are the segments that stand for themselves. -/
theorem name_mem_components_iff {path name : String} :
    Component.name name ∈ components path ↔
      name ∈ segments path ∧ Component.ofSegment? name = some (.name name) := by
  rw [components_eq, List.mem_append, name_mem_filterMap_iff, or_iff_right]
  rcases front_cases path with hfront | hfront | hfront <;> simp [hfront]

theorem isIdle_of_ofSegment? {piece : String} (h : Component.ofSegment? piece = none) :
    isIdle piece = true := by
  rw [Component.ofSegment?] at h
  by_cases hp : piece = "" ∨ piece = "."
  · simpa [isIdle] using hp
  · rw [if_neg hp] at h
    split at h <;> simp at h

theorem head?_segments_of_isAbsolute {path : String} (h : isAbsolute path = true) :
    (segments path).head? = some "" := by
  rw [isAbsolute, beq_iff_eq] at h
  cases hpath : path.toList with
  | nil => rw [hpath] at h; simp at h
  | cons c cs =>
    rw [hpath, List.head?_cons] at h
    rw [segments, hpath, Option.some.inj h]
    rfl

/-- A path that does not begin with a slash does not begin with an empty segment. -/
theorem isAbsolute_of_head?_segments {path : String} (hpath : path ≠ "")
    (h : (segments path).head? = some "") : isAbsolute path = true := by
  cases hl : path.toList with
  | nil => exact absurd hl (toList_ne_nil hpath)
  | cons c cs =>
    by_cases hc : c = '/'
    · simp [isAbsolute, hl, hc]
    · rw [segments, hl, splitSlash, if_neg hc] at h
      split at h <;> simp at h

theorem ofSegment?_of_front {path : String} (h : front path ≠ []) :
    ∃ piece, (segments path).head? = some piece ∧ Component.ofSegment? piece = none := by
  rw [front] at h
  split at h
  · rename_i habs
    exact ⟨"", head?_segments_of_isAbsolute habs, rfl⟩
  · split at h
    · rename_i hhead
      exact ⟨".", hhead, rfl⟩
    · exact absurd rfl h

theorem components_ne_nil {path : String} (hpath : path ≠ "") : components path ≠ [] := by
  intro hnil
  rw [components_eq, List.append_eq_nil_iff] at hnil
  obtain ⟨hfront, hsegments⟩ := hnil
  cases hp : segments path with
  | nil => exact segments_ne_nil path hp
  | cons piece pieces =>
    have hhead : (segments path).head? = some piece := by rw [hp, List.head?_cons]
    have hpiece : Component.ofSegment? piece = none :=
      List.filterMap_eq_nil_iff.mp hsegments piece (hp ▸ List.mem_cons_self)
    rw [front, hhead] at hfront
    split at hfront
    · simp at hfront
    · rename_i habs
      rcases (by simpa [isIdle] using isIdle_of_ofSegment? hpiece) with rfl | rfl
      · exact habs (isAbsolute_of_head?_segments hpath hhead)
      · simp at hfront

end TemplateCheck.Path
