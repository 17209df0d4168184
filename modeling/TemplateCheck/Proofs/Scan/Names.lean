import TemplateCheck.Proofs.Path.RelativeName
import TemplateCheck.Proofs.Scan.Evaluation

/-!
# Names and the files they are of

A scan calls each file by its relative name, in which every backslash has become a slash. Where no
file name holds a backslash the name leads back to the file; where one does, it does not, and two
files may have one name. All file names are UTF-8 here.

* `FaithfulNames` — relative names lead back to the files, and tell them apart in what is
  registered and reported;
* `faithfulNames_iff` — this holds just if a walk visits no file by a name with a backslash.
-/

namespace TemplateCheck

/-! ### The names of visited files -/

open TemplateCheck.Path (relativeName Plain)

/-- A walk visits the file at a path. -/
def Walk.Visits (top : FileTree.Node) (root : String) (gitignore : Bool) (path : String) : Prop :=
  .ok path ∈ Walk.files top root gitignore

/-- What is visited lies below the root, by file names. -/
theorem Walk.Visits.exists_names {top : FileTree.Node} (hwf : top.WellFormed) {root : String}
    {gitignore : Bool} {path : String} (h : Walk.Visits top root gitignore path) :
    ∃ names, path = Path.descend root names ∧ root ≠ "" ∧ ∀ n ∈ names, Path.IsFileName n := by
  rw [Walk.Visits] at h
  cases hroot : FileTree.resolve top root with
  | error fault => simp [Walk.files, hroot] at h
  | ok place =>
    rw [Walk.ok_mem_files_iff hroot] at h
    have hsub := Walk.filesAt_sublist top gitignore [] [] root place.node
    have hmem := hsub.subset (List.mem_filterMap.mpr ⟨.ok path, h, rfl⟩)
    obtain ⟨names, hnames, rfl⟩ := List.mem_map.mp hmem
    obtain ⟨bytes, hfile⟩ := (Walk.mem_namesAt_iff_fileBelow hroot names).mp hnames
    exact ⟨names, rfl, (FileTree.resolve_ok hroot).2.1, hfile.isFileName hwf⟩

/-- Where the path of what is visited is plain, so are these file names. -/
theorem Walk.Visits.exists_plain_names {top : FileTree.Node} (hwf : top.WellFormed) {root : String}
    {gitignore : Bool} {path : String} (h : Walk.Visits top root gitignore path)
    (hplain : Plain root path) :
    ∃ names, path = Path.descend root names ∧ root ≠ "" ∧ (∀ n ∈ names, Path.IsFileName n) ∧
      ∀ n ∈ names, '\\' ∉ n.toList := by
  obtain ⟨names, rfl, hroot, hnames⟩ := h.exists_names hwf
  exact ⟨names, rfl, hroot, hnames, (Path.plain_descend_iff hroot hnames).mp hplain⟩

theorem Walk.visits_iff {top : FileTree.Node} {root : String} {gitignore : Bool}
    {paths : List String} (h : Walk.files top root gitignore = paths.map .ok) (path : String) :
    Walk.Visits top root gitignore path ↔ path ∈ paths := by
  rw [Walk.Visits, h, List.mem_map]
  simp

/-- The relative names of the files that a walk visits are faithful. -/
structure FaithfulNames (top : FileTree.Node) (root : String) (gitignore : Bool) : Prop where
  /-- Joined to the root, the name of a file is the path of that file. -/
  joined : ∀ path, Walk.Visits top root gitignore path →
    Path.components (Path.join root (relativeName root path)) = Path.components path
  /-- It even has the same text, unless the file is the root itself. -/
  sameText : ∀ path, Walk.Visits top root gitignore path → path ≠ root →
    Path.join root (relativeName root path) = path
  /-- Different files have different names. -/
  distinct : ∀ path path', Walk.Visits top root gitignore path →
    Walk.Visits top root gitignore path' → relativeName root path = relativeName root path' →
    path = path'
  /-- No sample takes the place of another file's sample. -/
  kept : ∀ selector matcher samples report,
    Scan.sort top root selector matcher (Walk.files top root gitignore) = .ok (samples, report) →
    ∀ path, Walk.Visits top root gitignore path → matcher.isMatch (relativeName root path) = true →
      samples.paths.get? (relativeName root path) = some path
  /-- The name in a result, for a template or for a sample, is that of one file. -/
  identified : ∀ selector options report, options.gitignore = gitignore →
    scan top root selector options = .ok report → ∀ r ∈ report.results,
      (∃! path, Walk.Visits top root gitignore path ∧ relativeName root path = r.name) ∧
      ∀ s ∈ r.samples,
        ∃! path, Walk.Visits top root gitignore path ∧ relativeName root path = s.name

namespace Scan

variable {top : FileTree.Node} {root : String} {gitignore : Bool}

theorem distinct_of_plain (hwf : top.WellFormed)
    (hplain : ∀ path, Walk.Visits top root gitignore path → Plain root path) {path path' : String}
    (h : Walk.Visits top root gitignore path) (h' : Walk.Visits top root gitignore path')
    (heq : relativeName root path = relativeName root path') : path = path' := by
  obtain ⟨names, rfl, hroot, hnames, hplain₁⟩ := h.exists_plain_names hwf (hplain path h)
  obtain ⟨names', rfl, -, hnames', hplain₂⟩ := h'.exists_plain_names hwf (hplain path' h')
  rw [Path.relativeName_of_plain hroot hnames hplain₁,
    Path.relativeName_of_plain hroot hnames' hplain₂] at heq
  rw [Path.ofSegments_inj (Path.isNormal_of_isFileName hnames)
    (Path.isNormal_of_isFileName hnames') heq]

/-- Where names are distinct, a sample stays registered under its own path. -/
theorem get?_registered_of_distinct {samples : Matcher} {paths : List String}
    (hdistinct : ∀ p ∈ paths, ∀ q ∈ paths, relativeName root p = relativeName root q → p = q)
    {path : String} (hmem : path ∈ paths)
    (hmatch : samples.isMatch (relativeName root path) = true) :
    (registered root samples paths).get? (relativeName root path) = some path := by
  rw [get?_registered, if_pos hmatch]
  cases hfind : paths.reverse.find? (relativeName root · == relativeName root path) with
  | none =>
    have hno := List.find?_eq_none.mp hfind path (List.mem_reverse.mpr hmem)
    simp at hno
  | some p =>
    have hp : p ∈ paths := List.mem_reverse.mp (List.mem_of_find?_eq_some hfind)
    have hsame : relativeName root p = relativeName root path := by
      simpa using List.find?_some hfind
    rw [hdistinct p hp path hmem hsame]

/-- Every name in a result is that of a visited file. -/
theorem exists_of_mem_results {selector : Selector} {options : ScanOptions} {report : ScanReport}
    (h : scan top root selector options = .ok report) :
    ∀ r ∈ report.results,
      (∃ path, Walk.Visits top root options.gitignore path ∧ relativeName root path = r.name) ∧
      ∀ s ∈ r.samples,
        ∃ path, Walk.Visits top root options.gitignore path ∧ relativeName root path = s.name := by
  obtain ⟨paths, hwalk, hchecked⟩ := exists_checked h
  intro r hr
  obtain ⟨path, hpath, hcheck⟩ := hchecked r hr
  have hvisits := (Walk.visits_iff hwalk path).mpr hpath
  cases hcheck with
  | refused hname _ hnone =>
    refine ⟨⟨path, hvisits, hname.symm⟩, fun s hs => ?_⟩
    rw [hnone] at hs
    exact absurd hs List.not_mem_nil
  | compiled hname _ _ _ _ hsampled =>
    refine ⟨⟨path, hvisits, hname.symm⟩, fun s hs => ?_⟩
    obtain ⟨source, ⟨hvisited, hnamed, -, -⟩, -⟩ := hsampled.evaluated s hs
    have hmem : source ∈ paths := by
      rw [hvisited]
      exact List.mem_append_right _ List.mem_cons_self
    exact ⟨source, (Walk.visits_iff hwalk source).mpr hmem, hnamed⟩

end Scan

/-- The names of the files that a walk visits are faithful just if no file is visited by a name with
a backslash. -/
theorem faithfulNames_iff {top : FileTree.Node} (hwf : top.WellFormed) (root : String)
    (gitignore : Bool) :
    FaithfulNames top root gitignore ↔
      ∀ path, Walk.Visits top root gitignore path → Plain root path := by
  constructor
  · intro h path hpath
    have hjoined := h.joined path hpath
    obtain ⟨names, rfl, hroot, hnames⟩ := hpath.exists_names hwf
    rw [Path.components_join_relativeName_iff hroot hnames] at hjoined
    exact (Path.plain_descend_iff hroot hnames).mpr hjoined
  · intro hplain
    have hdistinct : ∀ p q, Walk.Visits top root gitignore p → Walk.Visits top root gitignore q →
        relativeName root p = relativeName root q → p = q :=
      fun p q hp hq => Scan.distinct_of_plain hwf hplain hp hq
    refine ⟨fun path hpath => ?_, fun path hpath hne => ?_, hdistinct, ?_, ?_⟩
    · obtain ⟨names, rfl, hroot, hnames, hp⟩ := hpath.exists_plain_names hwf (hplain path hpath)
      exact (Path.components_join_relativeName_iff hroot hnames).mpr hp
    · obtain ⟨names, rfl, hroot, hnames, hp⟩ := hpath.exists_plain_names hwf (hplain path hpath)
      refine Path.join_relativeName_of_plain hroot hnames hp ?_
      rintro rfl
      exact hne rfl
    · intro selector matcher samples report hsort path hpath hmatch
      obtain ⟨paths, hwalk, -, hfound⟩ := Scan.sort_ok hsort
      obtain ⟨rfl, -⟩ := Prod.mk.inj hfound
      refine Scan.get?_registered_of_distinct (fun p hp q hq => ?_)
        ((Walk.visits_iff hwalk path).mp hpath) hmatch
      exact hdistinct p q ((Walk.visits_iff hwalk p).mpr hp) ((Walk.visits_iff hwalk q).mpr hq)
    · intro selector options report hgitignore hscan r hr
      subst hgitignore
      obtain ⟨⟨path, hpath, hname⟩, hsamples⟩ := Scan.exists_of_mem_results hscan r hr
      refine ⟨⟨path, ⟨hpath, hname⟩, fun q hq => ?_⟩, fun s hs => ?_⟩
      · exact hdistinct q path hq.1 hpath (hq.2.trans hname.symm)
      · obtain ⟨path', hpath', hname'⟩ := hsamples s hs
        exact ⟨path', ⟨hpath', hname'⟩, fun q hq =>
          hdistinct q path' hq.1 hpath' (hq.2.trans hname'.symm)⟩

theorem faithfulNames_mixedTree :
    Scan.mixedTree.WellFormed ∧ FaithfulNames Scan.mixedTree "/in" false := by
  have hwf : Scan.mixedTree.WellFormed := by decide +kernel
  have hwalk : Walk.files Scan.mixedTree "/in" false =
      ([[".hidden", "z.tmpl"], ["a", "b.tmpl"], ["a", "b.tmpl.json"], ["bad.tmpl"], ["c.tmpl"],
        ["d.tmpl"], ["f.txt"]].map (Path.descend "/in")).map .ok := by
    decide +kernel
  refine ⟨hwf, (faithfulNames_iff hwf "/in" false).mpr fun path hpath => ?_⟩
  rw [Walk.visits_iff hwalk, List.mem_map] at hpath
  obtain ⟨names, hnames, rfl⟩ := hpath
  refine ⟨names, rfl, ?_⟩
  revert names
  decide +kernel

namespace Scan

/-- Two templates, one of them with a backslash in its name. -/
def backslashTree : FileTree.Node :=
  .dir [("in", .dir [
    ("a", .dir [("b.tmpl", .file [0x61])]),
    ("a\\b.tmpl", .file [0x62])])]

end Scan

/-- With a backslash in a file name, two results of one scan have the same name. -/
theorem not_faithfulNames_backslashTree :
    ¬ FaithfulNames Scan.backslashTree "/in" false ∧
      (scan Scan.backslashTree "/in" Scan.overlapping ScanOptions.default).toOption.map
        (·.results.map (·.name)) = some ["a/b.tmpl", "a/b.tmpl"] := by
  refine ⟨fun h => ?_, by decide +kernel⟩
  have hwalk : Walk.files Scan.backslashTree "/in" false =
      ["/in/a/b.tmpl", "/in/a\\b.tmpl"].map .ok := by
    decide +kernel
  have hsame := h.distinct "/in/a/b.tmpl" "/in/a\\b.tmpl"
    ((Walk.visits_iff hwalk _).mpr (by simp)) ((Walk.visits_iff hwalk _).mpr (by simp))
    (by decide +kernel)
  exact absurd hsame (by decide)

end TemplateCheck
