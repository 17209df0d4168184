import TemplateCheck.FileTree.Search
import TemplateCheck.Proofs.Path.Descend

/-!
# Cleaned paths

An absolute path is cleaned by its text alone, with the names walked so far as a stack: a name is
put on it, `..` takes the top away, and on the empty stack, which is the root directory, it does
nothing.

* `Path.clean` — the text that a path is cleaned to;
* `Path.isNormal_of_mem_cleaned`, `Path.cleaned_ofNames` — the stack holds names alone, and the text
  made of it is read back as the same stack;
* `Path.cleaned_join` — what is followed from a path goes on with its stack;
* `Path.Ascends`, `Path.directories` — the directories on the way up to the root directory;
* `Path.cleans` — the laws of cleaned paths.
-/

namespace TemplateCheck.Path

/-! ### Names on the stack -/

theorem isNormal_of_mem_components {path name : String}
    (h : Component.name name ∈ components path) :
    IsNormal name := by
  obtain ⟨hmem, hname⟩ := name_mem_components_iff.mp h
  rw [Component.ofSegment?] at hname
  by_cases hidle : name = "" ∨ name = "."
  · simp [hidle] at hname
  · by_cases hparent : name = ".."
    · simp [hparent] at hname
    · rw [not_or] at hidle
      exact ⟨hidle.1, hidle.2, hparent, slash_notMem_of_mem_segments hmem⟩

theorem isNormal_of_mem_step {part : Component} {walked : List String}
    (hpart : ∀ name, part = .name name → IsNormal name) (hwalked : ∀ n ∈ walked, IsNormal n) :
    ∀ n ∈ step walked part, IsNormal n := by
  intro n hn
  cases part with
  | root => exact absurd hn List.not_mem_nil
  | current => exact hwalked n hn
  | parent => exact hwalked n (List.mem_of_mem_tail hn)
  | name s =>
    rcases List.mem_cons.mp hn with rfl | hn
    · exact hpart n rfl
    · exact hwalked n hn

theorem isNormal_of_mem_foldl_step {parts : List Component} {walked : List String}
    (hparts : ∀ name, .name name ∈ parts → IsNormal name) (hwalked : ∀ n ∈ walked, IsNormal n) :
    ∀ n ∈ parts.foldl step walked, IsNormal n := by
  induction parts generalizing walked with
  | nil => exact hwalked
  | cons part parts ih =>
    rw [List.foldl_cons]
    apply ih
    · intro name hname
      exact hparts name (List.mem_cons_of_mem part hname)
    · apply isNormal_of_mem_step _ hwalked
      rintro name rfl
      exact hparts name List.mem_cons_self

theorem isNormal_of_mem_cleaned (path : String) : ∀ n ∈ cleaned path, IsNormal n := by
  apply isNormal_of_mem_foldl_step
  · intro name hname
    exact isNormal_of_mem_components hname
  · simp

/-! ### The text of a stack -/

variable {names : List String}

theorem isNormal_of_mem_reverse (h : ∀ n ∈ names, IsNormal n) : ∀ n ∈ names.reverse, IsNormal n :=
  fun n hn => h n (List.mem_reverse.mp hn)

/-- The text of a stack is the path that its names lead to from the root directory. -/
theorem ofNames_eq_descend (h : ∀ n ∈ names, IsNormal n) :
    ofNames names = descend "/" names.reverse := by
  have hnames := isNormal_of_mem_reverse h
  rw [ofNames]
  cases hrev : names.reverse with
  | nil => rfl
  | cons name rest =>
    rw [hrev] at hnames
    have htrunk : trunk "/" = [] := by decide
    rw [descend_cons_eq_below (by decide) hnames, below, htrunk, List.nil_append]
    apply String.toList_inj.mp
    rw [String.toList_append, String.toList_ofList, String.toList_ofList, List.singleton_append]

theorem ofNames_cons {name : String} {above : List String} (h : ∀ n ∈ name :: above, IsNormal n) :
    ofNames (name :: above) = join (ofNames above) name := by
  have habove : ∀ n ∈ above, IsNormal n := fun n hn => h n (List.mem_cons_of_mem name hn)
  rw [ofNames_eq_descend h, ofNames_eq_descend habove, List.reverse_cons, descend,
    List.foldl_append]
  rfl

theorem components_ofNames (h : ∀ n ∈ names, IsNormal n) :
    components (ofNames names) = .root :: names.reverse.map .name := by
  rw [ofNames_eq_descend h, components_descend (by decide) (isNormal_of_mem_reverse h)]
  rfl

theorem foldl_step_names (names walked : List String) :
    (names.map Component.name).foldl step walked = names.reverse ++ walked := by
  induction names generalizing walked with
  | nil => rfl
  | cons name names ih =>
    rw [List.map_cons, List.foldl_cons, ih, List.reverse_cons, List.append_assoc]
    rfl

/-- The text of a stack is read back as that stack. -/
theorem cleaned_ofNames (h : ∀ n ∈ names, IsNormal n) : cleaned (ofNames names) = names := by
  rw [cleaned, components_ofNames h, List.foldl_cons, foldl_step_names, List.reverse_reverse]
  exact List.append_nil names

/-! ### The cleaned text -/

/-- What an absolute path is cleaned to: without `.` and repeated slashes, and with every `..`
followed by the text alone. -/
def clean (path : String) : String :=
  ofNames (cleaned path)

theorem cleaned_clean (path : String) : cleaned (clean path) = cleaned path :=
  cleaned_ofNames (isNormal_of_mem_cleaned path)

theorem clean_ne_empty (path : String) : clean path ≠ "" := by
  intro h
  have hlist := congrArg String.toList h
  simp [clean, ofNames] at hlist

/-- What is followed from a path goes on from where that path leads. -/
theorem cleaned_join {p q : String} (hp : p ≠ "") (hq : isAbsolute q = false) :
    cleaned (join p q) = ((segments q).filterMap Component.ofSegment?).foldl step (cleaned p) := by
  rw [cleaned, join_eq_below hp hq, components_below q hp, List.foldl_append]
  rfl

theorem clean_join_clean {p q : String} (hp : p ≠ "") (hq : isAbsolute q = false) :
    clean (join p q) = clean (join (clean p) q) := by
  rw [clean, clean, cleaned_join hp hq, cleaned_join (clean_ne_empty p) hq, cleaned_clean]

/-- What is followed can be followed part by part. -/
theorem clean_join_join {p q r : String} (hp : p ≠ "") (hq : isAbsolute q = false)
    (hr : isAbsolute r = false) (hne : q ≠ "") :
    clean (join p (join q r)) = clean (join (join p q) r) := by
  have hjoin : join q r = below q r := join_eq_below hne hr
  have hrelative : isAbsolute (join q r) = false := by
    rw [hjoin, isAbsolute_below r hne]
    exact hq
  have hparts : (segments (join q r)).filterMap Component.ofSegment? =
      (segments q).filterMap Component.ofSegment? ++
        (segments r).filterMap Component.ofSegment? := by
    rw [hjoin, segments_below, List.filterMap_append, ← filterMap_segments]
  have hpq : join p q ≠ "" := by
    rw [join_eq_below hp hq]
    exact below_ne_empty p q
  rw [clean, clean, cleaned_join hp hrelative, hparts, List.foldl_append, cleaned_join hpq hr,
    cleaned_join hp hq]

theorem clean_join_current {p : String} (hp : p ≠ "") : clean (join p ".") = clean p := by
  rw [clean, cleaned_join hp (by decide), clean]
  rfl

theorem clean_join_name {p name : String} (hp : p ≠ "") (h : IsNormal name) :
    clean (join p name) = join (clean p) name := by
  have hnames : ∀ n ∈ name :: cleaned p, IsNormal n :=
    List.forall_mem_cons.mpr ⟨h, isNormal_of_mem_cleaned p⟩
  have hparts : (segments name).filterMap Component.ofSegment? = [.name name] := by
    rw [segments_of_notMem h.no_slash, List.filterMap_cons, h.ofSegment?, List.filterMap_nil]
  rw [clean, cleaned_join hp h.not_isAbsolute, hparts]
  exact ofNames_cons hnames

/-! ### Upwards -/

/-- So many steps upwards. -/
def parents (n : Nat) : String :=
  ofSegments (List.replicate n "..")

theorem segments_parents (n : Nat) : segments (parents (n + 1)) = List.replicate (n + 1) ".." := by
  apply segments_ofSegments
  intro piece hpiece
  rw [← List.replicate_succ] at hpiece
  rw [List.eq_of_mem_replicate hpiece]
  decide

theorem isAbsolute_parents (n : Nat) : isAbsolute (parents n) = false := by
  cases n with
  | zero => rfl
  | succ n =>
    rw [Bool.eq_false_iff]
    intro h
    have hhead := head?_segments_of_isAbsolute h
    rw [segments_parents, List.replicate_succ, List.head?_cons] at hhead
    simp at hhead

theorem filterMap_segments_parents (n : Nat) :
    (segments (parents n)).filterMap Component.ofSegment? = List.replicate n .parent := by
  cases n with
  | zero => rfl
  | succ n =>
    rw [segments_parents]
    exact List.filterMap_replicate_of_some rfl

/-- On the empty stack a step upwards does nothing. -/
theorem foldl_step_parents (n : Nat) (walked : List String) :
    (List.replicate n Component.parent).foldl step walked = walked.drop n := by
  induction n generalizing walked with
  | zero => rfl
  | succ n ih =>
    rw [List.replicate_succ, List.foldl_cons, ih]
    exact List.drop_tail

theorem clean_join_parents {p : String} (hp : p ≠ "") (n : Nat) :
    clean (join p (parents n)) = ofNames ((cleaned p).drop n) := by
  rw [clean, cleaned_join hp (isAbsolute_parents n), filterMap_segments_parents, foldl_step_parents]

/-- From a directory one name after the other is taken away, until the root directory is left. -/
inductive Ascends : String → List String → Prop
  | root : Ascends "/" ["/"]
  | up {dir name : String} {dirs : List String} (normal : IsNormal name) (rest : Ascends dir dirs) :
    Ascends (join dir name) (join dir name :: dirs)

theorem Ascends.ne_empty {dir : String} {dirs : List String} (h : Ascends dir dirs) : dir ≠ "" := by
  induction h with
  | root => decide
  | up normal rest ih =>
    rw [join_eq_below ih normal.not_isAbsolute]
    exact below_ne_empty _ _

theorem Ascends.getLast? {dir : String} {dirs : List String} (h : Ascends dir dirs) :
    dirs.getLast? = some "/" := by
  induction h with
  | root => rfl
  | up normal rest ih => rw [List.getLast?_cons, ih, Option.getD_some]

theorem length_lt_length_join {dir name : String} (hdir : dir ≠ "") (h : IsNormal name) :
    dir.length < (join dir name).length := by
  have hname : 0 < name.toList.length := List.length_pos_iff.mpr h.toList_ne_nil
  have htrunk : dir.toList.length ≤ (trunk dir).length + 1 := by
    by_cases hlast : dir.toList.getLast? = some '/'
    · have hlength := congrArg List.length (toList_eq_trunk_append hlast)
      rw [List.length_append, List.length_singleton] at hlength
      omega
    · have hlength := congrArg List.length (toList_eq_trunk hlast)
      omega
  rw [join_eq_below hdir h.not_isAbsolute, below, ← String.length_toList, ← String.length_toList,
    String.toList_ofList, List.length_append, List.length_cons]
  omega

theorem Ascends.length_le {dir : String} {dirs : List String} (h : Ascends dir dirs) :
    ∀ d ∈ dirs, d.length ≤ dir.length := by
  induction h with
  | root => simp
  | up normal rest ih =>
    intro d hd
    have hlt := length_lt_length_join rest.ne_empty normal
    rcases List.mem_cons.mp hd with rfl | hd
    · exact Nat.le_refl _
    · exact Nat.le_trans (ih d hd) (Nat.le_of_lt hlt)

/-- On the way up no directory comes twice. -/
theorem Ascends.nodup {dir : String} {dirs : List String} (h : Ascends dir dirs) : dirs.Nodup := by
  induction h with
  | root => simp
  | up normal rest ih =>
    refine List.nodup_cons.mpr ⟨?_, ih⟩
    intro hmem
    have hlt := length_lt_length_join rest.ne_empty normal
    have hle := rest.length_le _ hmem
    omega

/-- The directories that a search upwards from a path goes through. -/
def directories (path : String) : List String :=
  (Search.ancestors (cleaned path)).map ofNames

theorem ascends_ancestors (h : ∀ n ∈ names, IsNormal n) :
    Ascends (ofNames names) ((Search.ancestors names).map ofNames) := by
  induction names with
  | nil => exact .root
  | cons name above ih =>
    obtain ⟨hname, habove⟩ := List.forall_mem_cons.mp h
    have hup := Ascends.up hname (ih habove)
    rw [← ofNames_cons h] at hup
    exact hup

/-- They are the cleaned path and the directories above it. -/
theorem ascends_directories (path : String) : Ascends (clean path) (directories path) :=
  ascends_ancestors (isNormal_of_mem_cleaned path)

theorem getD_ancestors (names : List String) (n : Nat) :
    ((Search.ancestors names).map ofNames)[n]?.getD "/" = ofNames (names.drop n) := by
  induction names generalizing n with
  | nil => cases n <;> rfl
  | cons name above ih =>
    cases n with
    | zero => rfl
    | succ n => exact ih n

/-! ### The laws -/

/-- An absolute path `p`, and a path `q` followed from it: -/
structure Cleans (p q : String) : Prop where
  /-- the cleaned path is absolute, -/
  absolute : isAbsolute (clean p) = true
  /-- with nothing but names behind the root directory and one slash between each two; -/
  names : ∃ names, (∀ n ∈ names, IsNormal n) ∧ components (clean p) = .root :: names.map .name ∧
    clean p = "/" ++ ofSegments names
  /-- it is clean; -/
  clean_clean : clean (clean p) = clean p
  /-- it may take the place of the path before something is followed from it; -/
  clean_join : clean (join p q) = clean (join (clean p) q)
  /-- what is followed may be followed part by part; -/
  parts : ∀ r, q ≠ "" → isAbsolute r = false →
    clean (join p (join q r)) = clean (join (join p q) r)
  /-- a `.` leads nowhere else, -/
  here : clean (join p ".") = clean p
  /-- a name leads down from it, -/
  down : ∀ name, IsNormal name → clean (join p name) = join (clean p) name
  /-- and any number of `..` lead up, but never beyond the root directory; -/
  up : ∀ n, clean (join p (parents n)) = (directories p)[n]?.getD "/"
  /-- for the directories above it end there. -/
  ascends : Ascends (clean p) (directories p)
  ends : (directories p).getLast? = some "/"

/-- Every absolute path is cleaned by these laws, whatever is followed from it. -/
theorem cleans {p q : String} (hp : isAbsolute p = true) (hq : isAbsolute q = false) :
    Cleans p q := by
  have hne : p ≠ "" := by
    rintro rfl
    simp [isAbsolute] at hp
  have hnames := isNormal_of_mem_reverse (isNormal_of_mem_cleaned p)
  have hascends := ascends_directories p
  refine ⟨?_, ⟨(cleaned p).reverse, hnames, ?_, rfl⟩, ?_, clean_join_clean hne hq, ?_,
    clean_join_current hne, ?_, ?_, hascends, hascends.getLast?⟩
  · simp [isAbsolute, clean, ofNames]
  · exact components_ofNames (isNormal_of_mem_cleaned p)
  · rw [clean, cleaned_clean, clean]
  · intro r hempty hr
    exact clean_join_join hne hq hr hempty
  · intro name hname
    exact clean_join_name hne hname
  · intro n
    rw [clean_join_parents hne, directories, getD_ancestors]

theorem cleans_tangled :
    isAbsolute "/..//a/./b/../../../c/" = true ∧ isAbsolute "../.././d" = false ∧
      Cleans "/..//a/./b/../../../c/" "../.././d" ∧
      clean "/..//a/./b/../../../c/" = "/c" ∧ clean (join "/c" "../.././d") = "/d" := by
  have hp : isAbsolute "/..//a/./b/../../../c/" = true := by decide
  have hq : isAbsolute "../.././d" = false := by decide
  exact ⟨hp, hq, cleans hp hq, by decide +kernel, by decide +kernel⟩

end TemplateCheck.Path
