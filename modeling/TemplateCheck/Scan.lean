import TemplateCheck.Selector
import TemplateCheck.MediaType
import TemplateCheck.Report.Document
import TemplateCheck.Samples
import TemplateCheck.Walk

/-!
# Scanning

A scan compiles the templates in a directory tree, and renders each with the samples for it.

* `ScanOptions` — what is a sample, and how samples are completed;
* `ScanReport` — the templates that compile, and what became of each file that was to be one;
* `Scan.sort`, `Scan.compile` — the files of a tree told apart, and the templates among them
  compiled;
* `Scan.check`, `Scan.withSamples` — one template rendered with one sample, and each with all;
* `scan` — all of it.

What is wrong with a file is part of the result. A scan fails only if the tree cannot be walked or
a file cannot be read.
-/

namespace TemplateCheck

/-- How a tree is scanned. -/
structure ScanOptions where
  /-- Which files are samples. -/
  samples : Matcher
  /-- Values that a sample gets if it lacks them. -/
  defaults : KeyValues
  /-- Values that every sample gets. -/
  overrides : KeyValues
  /-- Are files left out that an ignore file names? -/
  gitignore : Bool

/-- No samples, and no files left out. -/
def ScanOptions.default : ScanOptions where
  samples := Matcher.empty
  defaults := KeyValues.empty
  overrides := KeyValues.empty
  gitignore := false

/-- The options of a configuration. -/
def ScanOptions.ofConfig (c : Config) : Except Problem ScanOptions := do
  let samples ← c.sampleMatcher
  return { samples, defaults := c.defaultValues, overrides := c.overrideValues,
           gitignore := c.gitignore }

/-- What a scan found. -/
structure ScanReport where
  /-- The templates that compile, in the order of the walk. -/
  templates : List Template
  /-- What became of each file that was to be a template, in the order of the walk. -/
  results : List TemplateResult

/-- The report on no files. -/
def ScanReport.empty : ScanReport := ⟨[], []⟩

/-- The report with what became of one more file. -/
def ScanReport.add (report : ScanReport) (name : String) : Except Problem Template → ScanReport
  | .ok t => ⟨report.templates ++ [t], report.results ++ [⟨name, none, []⟩]⟩
  | .error p => ⟨report.templates, report.results ++ [⟨name, some p, []⟩]⟩

namespace Scan

/-! ### Files -/

/-- What a file is for a scan. -/
inductive Role where
  | sample
  | template (parser : Parser)
  | none

/-- What the file with a name is. A sample is never a template. -/
def roleOf (selector : Selector) (samples : Matcher) (name : String) : Role :=
  if samples.isMatch name then .sample
  else
    match selector.select? name with
    | some parser => .template parser
    | .none => .none

/-- The template in the bytes of a file. -/
def compile (parser : Parser) (name : String) (bytes : List UInt8) : Except Problem Template :=
  match Text.Utf8.decode bytes with
  | .ok source => parser.parse name source
  | .error fault => .error (.templateParse name (.notText fault))

/-- One more file: a sample is registered, and a template compiled. -/
def takeFile (top : FileTree.Node) (root : String) (selector : Selector) (samples : Matcher)
    (found : Samples × ScanReport) (path : String) : Except Problem (Samples × ScanReport) :=
  let name := Path.relativeName root path
  match roleOf selector samples name with
  | .sample => .ok (found.1.add name path, found.2)
  | .none => .ok found
  | .template parser =>
    match FileTree.bytesAt top path with
    | .error fault => .error (.unreadable path fault)
    | .ok bytes => .ok (found.1, found.2.add name (compile parser name bytes))

/-- One more step of the walk: a file, or a fault that ends the scan. -/
def take (top : FileTree.Node) (root : String) (selector : Selector) (samples : Matcher)
    (found : Samples × ScanReport) : Except FileFault String → Except Problem (Samples × ScanReport)
  | .error _ => .error (.walk root .walk)
  | .ok path => takeFile top root selector samples found path

/-- The samples that a walk comes upon, and the report on its templates. -/
def sort (top : FileTree.Node) (root : String) (selector : Selector) (samples : Matcher)
    (walk : List (Except FileFault String)) : Except Problem (Samples × ScanReport) :=
  walk.foldlM (take top root selector samples) (Samples.empty, ScanReport.empty)

/-! ### Samples -/

/-- A model completed for rendering. -/
def complete (options : ScanOptions) (m : Model) : Model :=
  options.overrides.applyOverrides (options.defaults.applyDefaults m)

/-- What is wrong with a template rendered with a model. -/
def problem? (options : ScanOptions) (t : Template) (m : Model) : Option Problem :=
  match t.render (complete options m) with
  | .error p => some p
  | .ok text =>
    match t.validateOutput text with
    | .error p => some p
    | .ok () => none

/-- One template rendered with the sample that has a name. -/
def check (top : FileTree.Node) (options : ScanOptions) (t : Template) (name : String) :
    StateT Samples (Except Problem) SampleResult := do
  match ← fun samples => samples.load top name with
  | .error p => return ⟨name, some p⟩
  | .ok m => return ⟨name, problem? options t m⟩

/-- One template rendered with all the samples for it. -/
def checkAll (top : FileTree.Node) (options : ScanOptions) (t : Template) :
    StateT Samples (Except Problem) (List SampleResult) := do
  ((← get).matching t.name).mapM (check top options t)

/-- Results with those for samples. The templates stand in the order of the results without a
problem, and each such result takes the next one. -/
def withSamples (top : FileTree.Node) (options : ScanOptions) (templates : List Template) :
    List TemplateResult → StateT Samples (Except Problem) (List TemplateResult)
  | [] => return []
  | r :: rs =>
    match r.problem, templates with
    | some _, templates => return r :: (← withSamples top options templates rs)
    | none, [] => return r :: rs
    | none, t :: templates => do
      let samples ← checkAll top options t
      return { r with samples } :: (← withSamples top options templates rs)

end Scan

/-- The templates below a root directory, compiled and rendered with the samples for them. -/
def scan (top : FileTree.Node) (root : String) (selector : Selector) (options : ScanOptions) :
    Except Problem ScanReport := do
  let walk := Walk.files top root options.gitignore
  let (samples, report) ← Scan.sort top root selector options.samples walk
  if samples.isEmpty then return report
  else
    let (results, _) ← (Scan.withSamples top options report.templates report.results).run samples
    return { report with results }

end TemplateCheck
