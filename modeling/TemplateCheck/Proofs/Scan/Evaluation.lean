import TemplateCheck.Proofs.KeyValues
import TemplateCheck.Proofs.Scan.Results
import TemplateCheck.Proofs.Text.ByteOrder

/-!
# Each template is rendered with its own samples

The results of a scan are compared with those of rendering each template by itself: its samples are
looked up, read and completed as if nothing had been read before.

* `Scan.RegisteredAt` — the file that counts for the name of a sample: the last one visited;
* `Scan.Completed` — a sample's model with defaults and overrides, key by key;
* `Scan.Evaluates` — the outcome of rendering one template with one file;
* `Scan.Checked` — what a result says about a file, its template and its samples;
* `scan_checks` — every result of a scan says that about its own file.
-/

namespace TemplateCheck

namespace Scan

open TemplateCheck.Path (relativeName)

/-! ### What a result is to say -/

/-- Among visited files, the one at `path` counts for the sample `name`: it has this name, and no
file visited later has. -/
inductive RegisteredAt (root : String) (samples : Matcher) (paths : List String)
    (name path : String) : Prop
  | intro {before after : List String} (visited : paths = before ++ path :: after)
      (named : relativeName root path = name) (matched : samples.isMatch name = true)
      (last : ∀ other ∈ after, relativeName root other ≠ name)

/-- The model `full` maps each key to the last override for it, else to the value in `own`, else to
the first default for it. -/
def Completed (options : ScanOptions) (own full : Model) : Prop :=
  ∀ key, full.get? key =
    (options.overrides.last? key).or ((own.get? key).or (options.defaults.first? key))

/-- What comes of rendering a template with the sample `name` in the file at `path`: the fault of
the first stage that fails, if one does. -/
inductive Evaluates (top : FileTree.Node) (options : ScanOptions) (t : Template)
    (name path : String) : Option Problem → Prop
  | undecoded {bytes : List UInt8} {reason : Reason}
      (read : FileTree.bytesAt top path = .ok bytes)
      (decoded : Sample.decode path bytes = .error reason) :
      Evaluates top options t name path (some (.sampleLoad name reason))
  | unrendered {bytes : List UInt8} {own full : Model} {p : Problem}
      (read : FileTree.bytesAt top path = .ok bytes)
      (decoded : Sample.decode path bytes = .ok own) (completed : Completed options own full)
      (rendered : t.render full = .error p) : Evaluates top options t name path (some p)
  | invalid {bytes : List UInt8} {own full : Model} {text : String} {p : Problem}
      (read : FileTree.bytesAt top path = .ok bytes)
      (decoded : Sample.decode path bytes = .ok own) (completed : Completed options own full)
      (rendered : t.render full = .ok text) (validated : t.validateOutput text = .error p) :
      Evaluates top options t name path (some p)
  | passed {bytes : List UInt8} {own full : Model} {text : String}
      (read : FileTree.bytesAt top path = .ok bytes)
      (decoded : Sample.decode path bytes = .ok own) (completed : Completed options own full)
      (rendered : t.render full = .ok text) (validated : t.validateOutput text = .ok ()) :
      Evaluates top options t name path none

/-- The samples of a result are those for one template: the names are the registered ones that
belong to it, in ascending order of their bytes, and each has the outcome of its own file. -/
structure SampledBy (top : FileTree.Node) (root : String) (options : ScanOptions)
    (paths : List String) (t : Template) (samples : List SampleResult) : Prop where
  mem_iff : ∀ name, name ∈ samples.map (·.name) ↔
    (∃ path, RegisteredAt root options.samples paths name path) ∧
      Sample.belongsTo t.name name = true
  ascending : (samples.map (·.name)).Pairwise fun a b => Text.Utf8.encode a < Text.Utf8.encode b
  evaluated : ∀ s ∈ samples, ∃ path, RegisteredAt root options.samples paths s.name path ∧
    Evaluates top options t s.name path s.problem

/-- What a result says about the file at `path`: under its name, either what is wrong with it and
nothing about samples, or that it compiles, and its template's samples. -/
inductive Checked (top : FileTree.Node) (root : String) (selector : Selector)
    (options : ScanOptions) (paths : List String) (path : String) (r : TemplateResult) : Prop
  | refused {p : Problem} (name : r.name = relativeName root path) (problem : r.problem = some p)
      (none : r.samples = [])
  | compiled {bytes : List UInt8} {t : Template} (name : r.name = relativeName root path)
      (problem : r.problem = none) (read : FileTree.bytesAt top path = .ok bytes)
      (compiles : Compiles selector r.name bytes t) (sameName : t.name = r.name)
      (sampled : SampledBy top root options paths t r.samples)

/-! ### What it says -/

theorem registeredAt_iff {root : String} {samples : Matcher} {paths : List String}
    {name path : String} :
    RegisteredAt root samples paths name path ↔
      (registered root samples paths).get? name = some path := by
  rw [get?_registered]
  constructor
  · rintro ⟨visited, named, matched, last⟩
    rw [if_pos matched, List.find?_eq_some_iff_append]
    refine ⟨by simpa using named, _, _, by rw [visited, List.reverse_append,
      List.reverse_cons, List.append_assoc]; rfl, fun other hother => ?_⟩
    simpa using last other (List.mem_reverse.mp hother)
  · intro h
    split at h
    · rename_i matched
      obtain ⟨named, after, before, hreverse, hafter⟩ := List.find?_eq_some_iff_append.mp h
      have hpaths : paths = before.reverse ++ path :: after.reverse := by
        rw [← List.reverse_reverse paths, hreverse]
        simp
      refine ⟨hpaths, by simpa using named, matched, fun other hother => ?_⟩
      simpa using hafter other (List.mem_reverse.mp hother)
    · simp at h

/-- There is one such model, and a scan makes it. -/
theorem completed_iff {options : ScanOptions} {own full : Model} :
    Completed options own full ↔ full = complete options own := by
  have hcomplete : Completed options own (complete options own) := by
    intro key
    rw [complete, KeyValues.get?_applyOverrides, KeyValues.get?_applyDefaults]
  constructor
  · intro h
    exact KeyMap.ext_get? fun key => (h key).trans (hcomplete key).symm
  · rintro rfl
    exact hcomplete

variable {top : FileTree.Node} {root : String} {selector : Selector} {options : ScanOptions}
  {paths : List String}

/-- A sample that is read for this once gives the outcome of its own file. -/
theorem evaluates_of_checkAfresh {t : Template} {name path : String} {s : SampleResult}
    (hpath : (registered root options.samples paths).get? name = some path)
    (h : checkAfresh top options (registered root options.samples paths) t name = .ok s) :
    s.name = name ∧ Evaluates top options t name path s.problem := by
  obtain ⟨bytes, hread, rfl⟩ := checkAfresh_ok hpath h
  refine ⟨rfl, ?_⟩
  show Evaluates top options t name path (verdict options t name (Sample.decode path bytes))
  cases hdecoded : Sample.decode path bytes with
  | error reason => exact .undecoded hread hdecoded
  | ok own =>
    have hcompleted : Completed options own (complete options own) := completed_iff.mpr rfl
    rw [verdict, problem?]
    cases hrendered : t.render (complete options own) with
    | error p => exact .unrendered hread hdecoded hcompleted hrendered
    | ok text =>
      simp only
      cases hvalidated : t.validateOutput text with
      | error p => exact .invalid hread hdecoded hcompleted hrendered hvalidated
      | ok done => exact .passed hread hdecoded hcompleted hrendered hvalidated

/-- The samples for a template, each read for this once, are those that it is to have. -/
theorem sampledBy_of_mapM {t : Template} {samples : List SampleResult}
    (h : (matching (registered root options.samples paths) t.name).mapM
      (checkAfresh top options (registered root options.samples paths) t) = .ok samples) :
    SampledBy top root options paths t samples := by
  have hsamples : List.Forall₂
      (fun name s => s.name = name ∧ ∃ path, RegisteredAt root options.samples paths name path ∧
        Evaluates top options t name path s.problem)
      (matching (registered root options.samples paths) t.name) samples := by
    have hmatching := (List.forall₂_and_left _ _).mpr ⟨fun name hname => hname, forall₂_of_mapM h⟩
    refine hmatching.imp fun name s hs => ?_
    obtain ⟨⟨path, hpath⟩, -⟩ := (mem_matching_iff _ _ _).mp hs.1
    obtain ⟨hname, heval⟩ := evaluates_of_checkAfresh hpath hs.2
    exact ⟨hname, path, registeredAt_iff.mpr hpath, heval⟩
  have hnames : matching (registered root options.samples paths) t.name =
      samples.map (·.name) := by
    rw [← List.forall₂_eq_eq_eq, List.forall₂_map_right_iff]
    exact hsamples.imp fun name s hs => hs.1.symm
  refine ⟨fun name => ?_, ?_, fun s hs => ?_⟩
  · rw [← hnames, mem_matching_iff]
    simp only [registeredAt_iff]
  · rw [← hnames]
    exact (pairwise_matching _ _).imp Text.Utf8.encode_lt_encode
  · obtain ⟨name, -, rfl, heval⟩ := exists_of_forall₂ hsamples s hs
    exact heval

/-- The result of an attempt on a file is one that the file is to have. -/
theorem checked_of_resultAfresh {path : String} {a : Attempt} {r : TemplateResult}
    (hattempt : attempt? top root selector options.samples path = some a)
    (h : resultAfresh top options (registered root options.samples paths) a = .ok r) :
    Checked top root selector options paths path r := by
  obtain ⟨parser, bytes, hselect, hread, rfl⟩ := attempt?_eq_some hattempt
  rw [resultAfresh] at h
  simp only at h
  cases houtcome : compile parser (relativeName root path) bytes with
  | error p =>
    rw [houtcome] at h
    obtain rfl := Except.ok.inj h
    exact .refused rfl rfl rfl
  | ok t =>
    rw [houtcome] at h
    obtain ⟨samples, hsamples, h⟩ := bind_ok h
    obtain rfl := Except.ok.inj h
    obtain ⟨source, -, hparsed⟩ := compile_eq_ok_iff.mp houtcome
    exact .compiled rfl rfl hread ((compiles_iff hselect bytes t).mpr houtcome)
      (parse_name hparsed) (sampledBy_of_mapM hsamples)

/-- The results of attempts on files, one after the other. -/
theorem checked_of_attempts {selected : List String} {as : List Attempt}
    {results : List TemplateResult}
    (hattempts : List.Forall₂
      (fun path a => attempt? top root selector options.samples path = some a) selected as)
    (hresults : List.Forall₂
      (fun a r => resultAfresh top options (registered root options.samples paths) a = .ok r)
      as results) :
    List.Forall₂ (Checked top root selector options paths) selected results := by
  refine (forall₂_trans hattempts hresults).imp fun path r => ?_
  rintro ⟨a, hattempt, hresult⟩
  exact checked_of_resultAfresh hattempt hresult

/-- Every result of a scan that succeeds tells of a file that was visited. -/
theorem exists_checked {report : ScanReport} (h : scan top root selector options = .ok report) :
    ∃ paths, Walk.files top root options.gitignore = paths.map .ok ∧
      ∀ r ∈ report.results, ∃ path ∈ paths, Checked top root selector options paths path r := by
  obtain ⟨paths, hwalk, hreadable, -, hresults⟩ := scan_ok h
  refine ⟨paths, hwalk, fun r hr => ?_⟩
  have hchecked := checked_of_attempts (forall₂_attempts hreadable) hresults
  obtain ⟨path, hpath, hr⟩ := exists_of_forall₂ hchecked r hr
  exact ⟨path, List.mem_of_mem_filter hpath, hr⟩

/-- The samples in a result belong to its template. -/
theorem Checked.belongsTo {path : String} {r : TemplateResult}
    (h : Checked top root selector options paths path r) :
    ∀ s ∈ r.samples, Sample.belongsTo r.name s.name = true := by
  intro s hs
  cases h with
  | refused _ _ hnone =>
    rw [hnone] at hs
    exact absurd hs List.not_mem_nil
  | compiled _ _ _ _ hname hsampled =>
    rw [← hname]
    exact ((hsampled.mem_iff s.name).mp (List.mem_map_of_mem hs)).2

end Scan

open Scan in
/-- Whatever a scan that succeeds keeps and in whichever order it meets templates that compile and
others, each result tells of its own file: nothing about samples if the file does not compile, else
what comes of rendering its own template with each sample that belongs to it, read afresh. -/
theorem scan_checks {top : FileTree.Node} {root : String} {selector : Selector}
    {options : ScanOptions} {report : ScanReport}
    (h : scan top root selector options = .ok report) :
    ∃ paths, Walk.files top root options.gitignore = paths.map .ok ∧
      List.Forall₂ (Checked top root selector options paths)
        (paths.filter fun path =>
          isSelected selector options.samples (Path.relativeName root path))
        report.results := by
  obtain ⟨paths, hwalk, hreadable, -, hresults⟩ := scan_ok h
  refine ⟨paths, hwalk, ?_⟩
  exact checked_of_attempts (forall₂_attempts hreadable) hresults

namespace Scan

/-- A template that compiles, one that does not, and one more that compiles, with two samples for
both of these, one of which cannot be decoded. -/
def sharedTree : FileTree.Node :=
  .dir [("in", .dir [
    ("a.tmpl", .file [0x61]),
    ("ab.tmpl", .file [0x7b, 0x7b, 0x20, 0x78]),
    ("abc.tmpl", .file [0x62]),
    ("abc.tmpl.json", .file [0x7b, 0x7d]),
    ("abc.yaml.json", .file [0x78])])]

/-- Samples end in `.json`; a key has two defaults and two overrides. -/
def overlaidSamples : ScanOptions :=
  { jsonSamples with
    defaults := ⟨[⟨"k", .null⟩, ⟨"k", .bool true⟩]⟩
    overrides := ⟨[⟨"l", .null⟩, ⟨"l", .bool true⟩]⟩ }

end Scan

open Scan in
theorem scan_checks_sharedTree :
    ∃ report, scan sharedTree "/in" overlapping overlaidSamples = .ok report ∧
      report.results.map (fun r => (r.name, r.problem.isSome,
        r.samples.map fun s => (s.name, s.problem.isSome))) =
        [("a.tmpl", false, [("abc.tmpl.json", false), ("abc.yaml.json", true)]),
          ("ab.tmpl", true, []),
          ("abc.tmpl", false, [("abc.tmpl.json", false), ("abc.yaml.json", true)])] ∧
      ∃ paths, Walk.files sharedTree "/in" false = paths.map .ok ∧
        List.Forall₂ (Checked sharedTree "/in" overlapping overlaidSamples paths)
          (paths.filter fun path =>
            isSelected overlapping overlaidSamples.samples (Path.relativeName "/in" path))
          report.results := by
  have hrun : (scan sharedTree "/in" overlapping overlaidSamples).toOption.map
      (·.results.map fun r => (r.name, r.problem.isSome,
        r.samples.map fun s => (s.name, s.problem.isSome))) =
        some [("a.tmpl", false, [("abc.tmpl.json", false), ("abc.yaml.json", true)]),
          ("ab.tmpl", true, []),
          ("abc.tmpl", false, [("abc.tmpl.json", false), ("abc.yaml.json", true)])] := by
    decide +kernel
  obtain ⟨report, hreport, hresults⟩ := Option.map_eq_some_iff.mp hrun
  have hscan := eq_ok_of_toOption hreport
  exact ⟨report, hscan, hresults, scan_checks hscan⟩

end TemplateCheck
