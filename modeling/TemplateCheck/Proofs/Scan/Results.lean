import TemplateCheck.Proofs.Inventory
import TemplateCheck.Proofs.Scan.Sort

/-!
# One result for each file

A scan that succeeds says something about each file below its root that is to be a template, in the
order of the files, and about no other file.

* `Scan.isSelected` — is a file to be a template?
* `Scan.Compiles` — the template in the bytes of a file: that of the first selector entry that
  matches the name of the file;
* `Scan.Reports` — files, results and templates gone through together;
* `scan_reports` — the results of a scan are those of the selected files below its root.
-/

namespace TemplateCheck

namespace Scan

open TemplateCheck.Path (relativeName)

/-! ### Selection -/

/-- Is the file with a name to be a template? No sample is, and some entry must match. -/
def isSelected (selector : Selector) (samples : Matcher) (name : String) : Bool :=
  !samples.isMatch name && selector.entries.any (·.matcher.isMatch name)

/-- The bytes of a file are a text that compiles to a template, by the parser of the first entry
that matches the name of the file. -/
inductive Compiles (selector : Selector) (name : String) (bytes : List UInt8) (t : Template) : Prop
  | intro {before after : List SelectorEntry} {entry : SelectorEntry} {source : String}
      (entries : selector.entries = before ++ entry :: after)
      (skipped : ∀ e ∈ before, e.matcher.isMatch name = false)
      (matched : entry.matcher.isMatch name = true)
      (text : bytes = Text.Utf8.encode source)
      (parsed : entry.parser.parse name source = .ok t)

theorem compile_eq_ok_iff {parser : Parser} {name : String} {bytes : List UInt8} {t : Template} :
    compile parser name bytes = .ok t ↔
      ∃ source, bytes = Text.Utf8.encode source ∧ parser.parse name source = .ok t := by
  simp only [← Text.Utf8.decode_eq_ok_iff]
  rw [compile]
  cases Text.Utf8.decode bytes with
  | error fault => simp
  | ok source => simp

/-- The parser that a selector picks is that of the first entry that matches. -/
theorem compiles_iff {selector : Selector} {name : String} {parser : Parser}
    (h : selector.select? name = some parser) (bytes : List UInt8) (t : Template) :
    Compiles selector name bytes t ↔ compile parser name bytes = .ok t := by
  rw [Selector.select?, Option.map_eq_some_iff] at h
  obtain ⟨entry, hentry, rfl⟩ := h
  rw [compile_eq_ok_iff]
  constructor
  · rintro @⟨before, after, first, source, hentries, hskipped, hmatched, htext, hparsed⟩
    have hfirst : selector.entries.find? (·.matcher.isMatch name) = some first := by
      rw [hentries]
      exact List.find?_eq_some_iff_append.mpr ⟨hmatched, _, _, rfl, by simpa using hskipped⟩
    obtain rfl := Option.some.inj (hentry.symm.trans hfirst)
    exact ⟨_, htext, hparsed⟩
  · rintro ⟨source, htext, hparsed⟩
    obtain ⟨hmatched, before, after, hentries, hskipped⟩ :=
      List.find?_eq_some_iff_append.mp hentry
    exact ⟨hentries, by simpa using hskipped, hmatched, htext, hparsed⟩

theorem roleOf_eq_template_iff {selector : Selector} {samples : Matcher} {name : String}
    {parser : Parser} :
    roleOf selector samples name = .template parser ↔
      samples.isMatch name = false ∧ selector.select? name = some parser := by
  rw [roleOf]
  cases samples.isMatch name with
  | true => simp
  | false => cases selector.select? name <;> simp

/-- A file is selected if it is taken for a template. -/
theorem isSelected_iff {selector : Selector} {samples : Matcher} {name : String} :
    isSelected selector samples name = true ↔
      ∃ parser, roleOf selector samples name = .template parser := by
  simp only [roleOf_eq_template_iff, exists_and_left]
  rw [isSelected, Bool.and_eq_true, Bool.not_eq_true', Selector.select?]
  simp only [Option.map_eq_some_iff]
  refine and_congr_right fun _ => ?_
  constructor
  · intro h
    obtain ⟨e, he, hmatch⟩ := List.any_eq_true.mp h
    have hfound : (selector.entries.find? (·.matcher.isMatch name)).isSome :=
      List.find?_isSome.mpr ⟨e, he, hmatch⟩
    obtain ⟨entry, hentry⟩ := Option.isSome_iff_exists.mp hfound
    exact ⟨entry.parser, entry, hentry, rfl⟩
  · rintro ⟨_, entry, hentry, -⟩
    have hmatch : entry.matcher.isMatch name = true := by simpa using List.find?_some hentry
    exact List.any_eq_true.mpr ⟨entry, List.mem_of_find?_eq_some hentry, hmatch⟩

theorem attempt?_eq_some {top : FileTree.Node} {root : String} {selector : Selector}
    {samples : Matcher} {path : String} {a : Attempt}
    (h : attempt? top root selector samples path = some a) :
    ∃ parser bytes, selector.select? (relativeName root path) = some parser ∧
      FileTree.bytesAt top path = .ok bytes ∧
      a = ⟨relativeName root path, compile parser (relativeName root path) bytes⟩ := by
  rw [attempt?] at h
  split at h
  · rename_i parser bytes hrole hbytes
    exact ⟨parser, bytes, (roleOf_eq_template_iff.mp hrole).2, hbytes, (Option.some.inj h).symm⟩
  · simp at h

/-- The attempts are those on the selected files, in their order. -/
theorem forall₂_attempts {top : FileTree.Node} {root : String} {selector : Selector}
    {samples : Matcher} {paths : List String}
    (h : ∀ path ∈ paths, Readable top root selector samples path) :
    List.Forall₂ (fun path a => attempt? top root selector samples path = some a)
      (paths.filter fun path => isSelected selector samples (relativeName root path))
      (attempts top root selector samples paths) := by
  induction paths with
  | nil => exact .nil
  | cons path paths ih =>
    obtain ⟨hpath, hpaths⟩ := List.forall_mem_cons.mp h
    rw [attempts]
    cases hselected : isSelected selector samples (relativeName root path) with
    | false =>
      have hnone : attempt? top root selector samples path = none := by
        rw [attempt?]
        split
        · rename_i parser bytes hrole _
          simp [isSelected_iff.mpr ⟨parser, hrole⟩] at hselected
        · rfl
      rw [List.filter_cons_of_neg (by simp [hselected]), List.filterMap_cons_none hnone]
      exact ih hpaths
    | true =>
      obtain ⟨parser, hrole⟩ := isSelected_iff.mp hselected
      obtain ⟨bytes, hbytes⟩ := hpath parser hrole
      have hsome : attempt? top root selector samples path =
          some ⟨relativeName root path, compile parser (relativeName root path) bytes⟩ := by
        rw [attempt?, hrole, hbytes]
      rw [List.filter_cons_of_pos (by simp [hselected]), List.filterMap_cons_some hsome]
      exact .cons hsome (ih hpaths)

/-! ### Results in lock step with files -/

/-- Files below a root with their results, one each and in the same order, and with the templates
among them: a file that compiles has a result without a problem and a template, both under its name,
and any other one has a result that says what is wrong. -/
inductive Reports (selector : Selector) (root : String) :
    List Found → List TemplateResult → List Template → Prop
  | nil : Reports selector root [] [] []
  | compiled {f : Found} {r : TemplateResult} {t : Template} {files : List Found}
      {results : List TemplateResult} {templates : List Template}
      (name : r.name = relativeName root (Path.descend root f.1))
      (compiles : Compiles selector r.name f.2 t) (sameName : t.name = r.name)
      (problem : r.problem = none) (rest : Reports selector root files results templates) :
      Reports selector root (f :: files) (r :: results) (t :: templates)
  | refused {f : Found} {r : TemplateResult} {p : Problem} {files : List Found}
      {results : List TemplateResult} {templates : List Template}
      (name : r.name = relativeName root (Path.descend root f.1))
      (refused : ∀ t, ¬ Compiles selector r.name f.2 t) (problem : r.problem = some p)
      (rest : Reports selector root files results templates) :
      Reports selector root (f :: files) (r :: results) templates

theorem parse_name {parser : Parser} {name source : String} {t : Template}
    (h : parser.parse name source = .ok t) : t.name = name := by
  rw [Parser.parse] at h
  split at h
  · rw [← Except.ok.inj h]
  · simp at h

theorem resultAfresh_name {top : FileTree.Node} {options : ScanOptions}
    {paths : KeyMap String} {a : Attempt} {r : TemplateResult}
    (h : resultAfresh top options paths a = .ok r) :
    r.name = a.name ∧ r.problem = a.bare.problem := by
  obtain ⟨name, outcome⟩ := a
  cases outcome with
  | error p =>
    obtain rfl := Except.ok.inj h
    exact ⟨rfl, rfl⟩
  | ok t =>
    obtain ⟨samples, -, h⟩ := bind_ok h
    obtain rfl := Except.ok.inj h
    exact ⟨rfl, rfl⟩

/-- One more file that is selected: its result stands in front, and so does its template if it
compiles. -/
theorem Reports.cons {top : FileTree.Node} {root : String} {selector : Selector}
    {options : ScanOptions} {paths : KeyMap String} {f : Found} {files : List Found}
    {r : TemplateResult} {results : List TemplateResult} {a : Attempt} {as : List Attempt}
    (hname : a.name = relativeName root (Path.descend root f.1))
    (houtcome : ∀ t, Compiles selector a.name f.2 t ↔ a.outcome = .ok t)
    (hresult : resultAfresh top options paths a = .ok r)
    (rest : Reports selector root files results (as.filterMap Attempt.template?)) :
    Reports selector root (f :: files) (r :: results)
      ((a :: as).filterMap Attempt.template?) := by
  obtain ⟨hr, hproblem⟩ := resultAfresh_name hresult
  obtain ⟨name, outcome⟩ := a
  cases outcome with
  | error p =>
    refine .refused (hr.trans hname) (fun t ht => ?_) hproblem rest
    rw [hr, houtcome] at ht
    simp at ht
  | ok t =>
    have hcompiles := (houtcome t).mpr rfl
    refine .compiled (hr.trans hname) (hr ▸ hcompiles) ?_ hproblem rest
    cases hcompiles with
    | intro _ _ _ _ hparsed => exact (parse_name hparsed).trans hr.symm

/-- The results of attempts on files, one after the other. -/
theorem reports_of_attempts {top : FileTree.Node} {root : String} {selector : Selector}
    {options : ScanOptions} {paths : KeyMap String} {files : List Found} {as : List Attempt}
    {results : List TemplateResult}
    (hread : ∀ f ∈ files, ∀ bytes,
      FileTree.bytesAt top (Path.descend root f.1) = .ok bytes → bytes = f.2)
    (hattempts : List.Forall₂
      (fun f a => attempt? top root selector options.samples (Path.descend root f.1) = some a)
      files as)
    (hresults : List.Forall₂ (fun a r => resultAfresh top options paths a = .ok r) as results) :
    Reports selector root files results (as.filterMap Attempt.template?) := by
  induction hattempts generalizing results with
  | nil =>
    cases hresults
    exact .nil
  | @cons f a files as hattempt _ ih =>
    obtain ⟨hreadf, hread⟩ := List.forall_mem_cons.mp hread
    obtain ⟨parser, bytes, hselect, hbytes, rfl⟩ := attempt?_eq_some hattempt
    obtain rfl := hreadf bytes hbytes
    cases hresults with
    | cons hresult hresults =>
      exact .cons rfl (compiles_iff hselect f.2) hresult (ih hread hresults)

end Scan

namespace Scan

/-- A directory with a template in a hidden directory, another one beside its sample, one that is no
text and one that does not compile, a link to a template, a link to a directory and a file that is
none of these. -/
def mixedTree : FileTree.Node :=
  .dir [("in", .dir [
    (".hidden", .dir [("z.tmpl", .file [0x7a])]),
    ("a", .dir [("b.tmpl", .file [0x62]), ("b.tmpl.json", .file [0x7b, 0x7d])]),
    ("bad.tmpl", .file [0xff]),
    ("c.tmpl", .file [0x7b, 0x7b, 0x20, 0x78]),
    ("d.tmpl", .link "a/b.tmpl"),
    ("e", .link "a"),
    ("f.txt", .file [0x66])])]

/-- The parser without settings, for plain text. -/
def plainParser : Parser :=
  ⟨.text, .default, .standard, some "text/plain", KeyMap.empty, .none⟩

/-- The matcher for names in any directory that end in a text. -/
def endingIn (s : String) : Matcher :=
  ⟨[("**/*" ++ s, .leading :: .star :: s.toList.map .literal)]⟩

/-- Two entries that both match what ends in `.tmpl`. -/
def overlapping : Selector :=
  ⟨[⟨endingIn ".tmpl", plainParser⟩, ⟨endingIn "l", plainParser⟩]⟩

/-- Samples end in `.json`. -/
def jsonSamples : ScanOptions :=
  { ScanOptions.default with samples := endingIn ".json" }

end Scan

end TemplateCheck
