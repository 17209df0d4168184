import TemplateCheck.Config.Read
import TemplateCheck.Proofs.Success
import TemplateCheck.Proofs.Text.Utf8

/-!
# The nearest configuration file

A search upwards asks a predicate about one directory after the other, and the predicate tries one
name after the other. Here all candidates stand in one list, and what a search comes to is told by
the first of them that settles it.

* `Config.candidatesFrom` — the candidates on the way up, nearest directory first;
* `Search.IsPassedOver`, `Search.Settles` — which candidates settle nothing, and what a list of
  candidates comes to;
* `Search.firstAmong_eq_iff` — going through such a list comes to that;
* `Config.Holds` — the configuration in the file at a path;
* `Config.discover_eq_iff` — a search for a configuration file comes to what its candidates do, and
  the configuration that is loaded is the one in the file that is found.
-/

namespace TemplateCheck

open FileTree (Node)

namespace Search

/-! ### Candidates -/

/-- A candidate that settles nothing: a directory, or a path under which there is nothing. -/
def IsPassedOver (top : Node) (candidate : String) : Prop :=
  FileTree.isDir top candidate = .ok true ∨
    FileTree.isDir top candidate = .error .notFound ∨
    FileTree.isDir top candidate = .error .notDirectory

/-- What candidates come to, tried one after the other: the first that is not passed over is found
if it is there, and is a fault otherwise. -/
inductive Settles (top : Node) (candidates : List String) : Except Problem (Option String) → Prop
  | found {before after : List String} {candidate : String}
      (candidates_eq : candidates = before ++ candidate :: after)
      (passed : ∀ c ∈ before, IsPassedOver top c)
      (isFile : FileTree.isDir top candidate = .ok false) :
      Settles top candidates (.ok (some candidate))
  | failed {before after : List String} {candidate : String} {fault : FileFault}
      (candidates_eq : candidates = before ++ candidate :: after)
      (passed : ∀ c ∈ before, IsPassedOver top c)
      (unknown : FileTree.isDir top candidate = .error fault) (present : fault ≠ .notFound)
      (reachable : fault ≠ .notDirectory) : Settles top candidates (.error (.io fault))
  | exhausted (passed : ∀ c ∈ candidates, IsPassedOver top c) : Settles top candidates (.ok none)

/-- The first of some paths that is something other than a directory. A path under which there is
nothing is passed over; every other fault ends the search. -/
def firstAmong (top : Node) : List String → Except Problem (Option String)
  | [] => .ok none
  | candidate :: candidates =>
    match FileTree.isDir top candidate with
    | .ok false => .ok (some candidate)
    | .ok true => firstAmong top candidates
    | .error fault => if fault.isAbsence then firstAmong top candidates else .error (.io fault)

variable {top : Node}

theorem isAbsence_iff {fault : FileFault} :
    fault.isAbsence = true ↔ fault = .notFound ∨ fault = .notDirectory := by
  cases fault <;> simp [FileFault.isAbsence]

theorem firstAmong_of_isPassedOver {candidate : String} (h : IsPassedOver top candidate)
    (candidates : List String) :
    firstAmong top (candidate :: candidates) = firstAmong top candidates := by
  rcases h with h | h | h <;> rw [firstAmong, h] <;> rfl

theorem firstAmong_append_of_isPassedOver {before : List String}
    (h : ∀ c ∈ before, IsPassedOver top c) (candidates : List String) :
    firstAmong top (before ++ candidates) = firstAmong top candidates := by
  induction before with
  | nil => rfl
  | cons c before ih =>
    obtain ⟨hc, hbefore⟩ := List.forall_mem_cons.mp h
    rw [List.cons_append, firstAmong_of_isPassedOver hc, ih hbefore]

/-- A candidate that is passed over changes nothing for those behind it. -/
theorem Settles.cons {candidate : String} {candidates : List String}
    {r : Except Problem (Option String)} (hpassed : IsPassedOver top candidate)
    (h : Settles top candidates r) : Settles top (candidate :: candidates) r := by
  cases h with
  | found heq hbefore hfile =>
    exact .found (congrArg (candidate :: ·) heq) (List.forall_mem_cons.mpr ⟨hpassed, hbefore⟩) hfile
  | failed heq hbefore hfault hpresent hreachable =>
    exact .failed (congrArg (candidate :: ·) heq) (List.forall_mem_cons.mpr ⟨hpassed, hbefore⟩)
      hfault hpresent hreachable
  | exhausted hall => exact .exhausted (List.forall_mem_cons.mpr ⟨hpassed, hall⟩)

theorem settles_firstAmong (candidates : List String) :
    Settles top candidates (firstAmong top candidates) := by
  induction candidates with
  | nil => exact .exhausted (by simp)
  | cons candidate candidates ih =>
    cases hdir : FileTree.isDir top candidate with
    | ok isDir =>
      cases isDir with
      | true =>
        have hpassed : IsPassedOver top candidate := .inl hdir
        rw [firstAmong_of_isPassedOver hpassed]
        exact ih.cons hpassed
      | false =>
        rw [firstAmong, hdir]
        exact .found (List.nil_append _).symm (by simp) hdir
    | error fault =>
      by_cases habsent : fault = .notFound ∨ fault = .notDirectory
      · have hpassed : IsPassedOver top candidate := by
          rcases habsent with rfl | rfl
          · exact .inr (.inl hdir)
          · exact .inr (.inr hdir)
        rw [firstAmong_of_isPassedOver hpassed]
        exact ih.cons hpassed
      · have hother : ¬ fault.isAbsence = true := mt isAbsence_iff.mp habsent
        rw [firstAmong, hdir]
        simp only [hother, Bool.false_eq_true, ↓reduceIte]
        rw [not_or] at habsent
        exact .failed (List.nil_append _).symm (by simp) hdir habsent.1 habsent.2

/-- Candidates come to one thing alone, and that is what trying them gives. -/
theorem firstAmong_eq_iff {candidates : List String} {r : Except Problem (Option String)} :
    firstAmong top candidates = r ↔ Settles top candidates r := by
  constructor
  · rintro rfl
    exact settles_firstAmong candidates
  · intro h
    cases h with
    | found heq hbefore hfile =>
      rw [heq, firstAmong_append_of_isPassedOver hbefore, firstAmong, hfile]
    | @failed _ _ _ fault heq hbefore hfault hpresent hreachable =>
      have hother : ¬ fault.isAbsence = true :=
        mt isAbsence_iff.mp (not_or.mpr ⟨hpresent, hreachable⟩)
      rw [heq, firstAmong_append_of_isPassedOver hbefore, firstAmong, hfault]
      simp only [hother, Bool.false_eq_true, ↓reduceIte]
    | exhausted hall =>
      have hrun := firstAmong_append_of_isPassedOver hall []
      rwa [List.append_nil] at hrun

/-! ### One list of candidates -/

theorem firstAmong_append (xs ys : List String) :
    firstAmong top (xs ++ ys) =
      (firstAmong top xs).bind fun found =>
        match found with
        | some path => .ok (some path)
        | none => firstAmong top ys := by
  induction xs with
  | nil => rfl
  | cons x xs ih =>
    rw [List.cons_append, firstAmong, firstAmong]
    cases FileTree.isDir top x with
    | ok isDir =>
      cases isDir with
      | true => exact ih
      | false => rfl
    | error fault =>
      by_cases habsent : fault.isAbsence = true
      · simp only [habsent, ↓reduceIte]
        exact ih
      · simp only [habsent, Bool.false_eq_true, ↓reduceIte]
        rfl

/-- What a predicate decides, given what was found. -/
def stepOf : Option String → SearchStep String
  | some path => .stop path
  | none => .next

theorem firstFile_cons (name : String) (names : List String) (dir : String) :
    firstFile top (name :: names) dir =
      match FileTree.isDir top (Path.join dir name) with
      | .ok false => .ok (.stop (Path.join dir name))
      | .ok true => firstFile top names dir
      | .error fault =>
        if fault.isAbsence then firstFile top names dir else .error (.io fault) := by
  rfl

/-- A predicate that tries names in a directory tries the paths of these names. -/
theorem firstFile_eq (names : List String) (dir : String) :
    firstFile top names dir = (firstAmong top (names.map (Path.join dir))).map stepOf := by
  induction names with
  | nil => rfl
  | cons name names ih =>
    rw [firstFile_cons, List.map_cons, firstAmong]
    cases FileTree.isDir top (Path.join dir name) with
    | ok isDir =>
      cases isDir with
      | true => exact ih
      | false => rfl
    | error fault =>
      by_cases habsent : fault.isAbsence = true
      · simp only [habsent, ↓reduceIte]
        exact ih
      · simp only [habsent, Bool.false_eq_true, ↓reduceIte]
        rfl

theorem ask_firstFile (names : List String) (dir : String) :
    ask dir [firstFile top names] = (firstAmong top (names.map (Path.join dir))).map stepOf := by
  rw [ask, firstFile_eq]
  cases firstAmong top (names.map (Path.join dir)) with
  | error p => rfl
  | ok found => cases found <;> rfl

/-- A search through directories with one list of names tries all names in one directory after the
other. -/
theorem askAll_firstFile (names : List String) (dirs : List (List String)) :
    askAll [firstFile top names] dirs =
      firstAmong top (dirs.flatMap fun dir => names.map (Path.join (Path.ofNames dir))) := by
  induction dirs with
  | nil => rfl
  | cons dir dirs ih =>
    rw [askAll, ask_firstFile, List.flatMap_cons, firstAmong_append, ← ih]
    cases firstAmong top (names.map (Path.join (Path.ofNames dir))) with
    | error p => rfl
    | ok found => cases found <;> rfl

/-- The directories on the way up are told by what is left of their names. -/
theorem ancestors_eq_tails (names : List String) : ancestors names = names.tails := by
  induction names with
  | nil => rfl
  | cons name above ih => exact congrArg ((name :: above) :: ·) ih

end Search

namespace Config

open Search (Settles)

/-- The candidates for a configuration file on the way from an absolute path up to the root
directory: each directory with each name, nearest directory first. -/
def candidatesFrom (path : String) : List String :=
  (Path.cleaned path).tails.flatMap fun dir => fileNames.map (Path.join (Path.ofNames dir))

/-- The file at a path holds a configuration, as the name of the file says. -/
inductive Holds (top : Node) (path : String) (c : Config) : Prop
  | intro {bytes : List UInt8} {text : String} (read : FileTree.bytesAt top path = .ok bytes)
      (text_eq : bytes = Text.Utf8.encode text)
      (decoded : (if isTomlName path then ofToml text else ofYaml text) = .ok c)

variable {top : Node} {cwd start path : String}

theorem discover_eq (h : Path.absolute? cwd start = some path) :
    discover top cwd start = Search.firstAmong top (candidatesFrom path) := by
  rw [discover, Search.upward, h, candidatesFrom, ← Search.ancestors_eq_tails]
  exact Search.askAll_firstFile fileNames _

theorem read_eq_ok_iff {c : Config} (habsolute : Path.isAbsolute path = true) :
    read top cwd path = .ok c ↔ Holds top path c := by
  have hjoin : Path.join cwd path = path := by rw [Path.join, if_pos habsolute]
  rw [read, hjoin, textAt]
  constructor
  · intro h
    obtain ⟨text, htext, h⟩ := bind_ok h
    split at htext
    · simp at htext
    · rename_i bytes hread
      split at htext
      · simp at htext
      · rename_i hdecode
        obtain rfl := Except.ok.inj htext
        refine ⟨hread, Text.Utf8.decode_eq_ok_iff.mp hdecode, ?_⟩
        split at h
        · rename_i hdecoded
          rw [hdecoded, Except.ok.inj h]
        · simp [throw, throwThe, MonadExceptOf.throw] at h
  · rintro ⟨hread, htext, hdecoded⟩
    rw [hread]
    simp only [Text.Utf8.decode_eq_ok_iff.mpr htext]
    simp [bind, Except.bind, hdecoded, pure, Except.pure]

/-- A candidate is an absolute path. -/
theorem isAbsolute_of_mem_candidatesFrom {candidate : String}
    (h : candidate ∈ candidatesFrom path) : Path.isAbsolute candidate = true := by
  obtain ⟨dir, -, h⟩ := List.mem_flatMap.mp h
  obtain ⟨name, hname, rfl⟩ := List.mem_map.mp h
  have hrelative : Path.isAbsolute name = false := by
    have hnames : ∀ n ∈ fileNames, Path.isAbsolute n = false := by decide
    exact hnames name hname
  rw [Path.join, if_neg (by simp [hrelative])]
  split
  · rename_i hempty
    simp [Path.ofNames] at hempty
  · simp [Path.isAbsolute, Path.ofNames]
  · simp [Path.isAbsolute, Path.ofNames]

theorem mem_of_settles {candidates : List String} {candidate : String}
    (h : Settles top candidates (.ok (some candidate))) : candidate ∈ candidates := by
  cases h with
  | found heq _ _ =>
    rw [heq]
    exact List.mem_append_right _ List.mem_cons_self

/-- A search for a configuration file from a path that can be made absolute comes to what the
candidates from there do, and to nothing else. Where it finds no file, none is loaded; where it
fails, so does loading; and the configuration that is loaded is the one in the file that is
found. -/
theorem discover_eq_iff (top : Node) (cwd start path : String)
    (h : Path.absolute? cwd start = some path) :
    (∀ r, discover top cwd start = r ↔ Settles top (candidatesFrom path) r) ∧
    (∀ p, discover top cwd start = .error p → load top cwd start = .error p) ∧
    (load top cwd start = .ok none ↔ discover top cwd start = .ok none) ∧
    ∀ file c, load top cwd start = .ok (some (file, c)) ↔
      discover top cwd start = .ok (some file) ∧ Holds top file c := by
  have hsettles : ∀ r, discover top cwd start = r ↔ Settles top (candidatesFrom path) r := by
    intro r
    rw [discover_eq h, Search.firstAmong_eq_iff]
  refine ⟨hsettles, fun p hp => ?_, ?_, fun file c => ?_⟩
  · rw [load, hp]
    rfl
  · rw [load]
    cases discover top cwd start with
    | error p => simp [bind, Except.bind]
    | ok found =>
      cases found with
      | none => simp [bind, Except.bind, pure, Except.pure]
      | some file =>
        cases hread : read top cwd file <;> simp [bind, Except.bind, hread, pure, Except.pure]
  · have habsolute : discover top cwd start = .ok (some file) → Path.isAbsolute file = true :=
      fun hfound => isAbsolute_of_mem_candidatesFrom (mem_of_settles ((hsettles _).mp hfound))
    constructor
    · intro hload
      obtain ⟨found, hfound, hload⟩ := bind_ok hload
      cases found with
      | none => simp [pure, Except.pure] at hload
      | some file' =>
        obtain ⟨c', hread, hload⟩ := bind_ok hload
        obtain ⟨rfl, rfl⟩ := Prod.mk.inj (Option.some.inj (Except.ok.inj hload))
        exact ⟨hfound, (read_eq_ok_iff (habsolute hfound)).mp hread⟩
    · rintro ⟨hfound, hholds⟩
      have hread : read top cwd file = .ok c := (read_eq_ok_iff (habsolute hfound)).mpr hholds
      rw [load, hfound]
      simp [bind, Except.bind, hread, pure, Except.pure]

/-- A directory with a configuration file behind a link, below which the better names are those of a
directory and of a link that leads nowhere; and another directory in which such a name is a link to
itself. -/
def searchedTree : Node :=
  .dir [
    ("a", .dir [
      (".thoth.toml", .link "../real"),
      ("b", .dir [(".thoth.yaml", .dir []), (".thoth.yml", .link "gone"), ("c", .file [])])]),
    ("loop", .dir [(".thoth.yml", .link ".thoth.yml")]),
    ("real", .file (Text.Utf8.encode "gitignore = true"))]

theorem discover_eq_iff_searchedTree :
    Path.absolute? "/a" "x/.././b/c" = some "/a/x/../b/c" ∧
    Settles searchedTree (candidatesFrom "/a/x/../b/c") (.ok (some "/a/.thoth.toml")) ∧
    (∃ c, load searchedTree "/a" "x/.././b/c" = .ok (some ("/a/.thoth.toml", c)) ∧
      c.gitignore = true ∧ Holds searchedTree "/a/.thoth.toml" c) ∧
    Settles searchedTree (candidatesFrom "/loop/d") (.error (.io .tooManyLinks)) ∧
    load searchedTree "/a" "/loop/d" = .error (.io .tooManyLinks) := by
  have habove : Path.absolute? "/a" "x/.././b/c" = some "/a/x/../b/c" := by decide +kernel
  have hloop : Path.absolute? "/a" "/loop/d" = some "/loop/d" := by decide +kernel
  obtain ⟨hsettles, -, -, hload⟩ := discover_eq_iff searchedTree "/a" _ _ habove
  obtain ⟨hsettles', hfails, -, -⟩ := discover_eq_iff searchedTree "/a" _ _ hloop
  have hfound : discover searchedTree "/a" "x/.././b/c" = .ok (some "/a/.thoth.toml") := by
    decide +kernel
  have hstuck : discover searchedTree "/a" "/loop/d" = .error (.io .tooManyLinks) := by
    decide +kernel
  have hrun : (load searchedTree "/a" "x/.././b/c").toOption.map (·.map fun found =>
      (found.1, found.2.gitignore)) = some (some ("/a/.thoth.toml", true)) := by
    decide +kernel
  obtain ⟨loaded, hloaded, hrun⟩ := Option.map_eq_some_iff.mp hrun
  obtain ⟨⟨file, c⟩, rfl, hsame⟩ := Option.map_eq_some_iff.mp hrun
  obtain ⟨rfl, hgitignore⟩ := Prod.mk.inj hsame
  have hread := eq_ok_of_toOption hloaded
  exact ⟨habove, (hsettles _).mp hfound, ⟨c, hread, hgitignore, ((hload _ c).mp hread).2⟩,
    (hsettles' _).mp hstuck, hfails _ hstuck⟩

end Config

end TemplateCheck
