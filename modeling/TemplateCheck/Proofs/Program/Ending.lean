import TemplateCheck.Program
import TemplateCheck.Proofs.Success
import TemplateCheck.Proofs.Text.Expansion

/-!
# How a run ends

A run goes through its steps in order, and the first that fails ends it. How it ends says what its
exit code is and whether there is any output; how the report is presented has no part in that.

* `Program.loaded`, `Program.prepared` — the configuration of a run, and what a scan needs of it;
* `Program.Ending`, `Program.Ends` — what a run can come to, and what it comes to;
* `Program.Alike` — two runs that differ in how they present their report;
* `Program.main_ends` — the exit code and the output of a run, and what they do not depend on.
-/

namespace TemplateCheck.Program

open Text.References (names expand expand_congr)

/-! ### Before the scan -/

/-- The configuration that a run is asked for: none, that in a given file, or the nearest. -/
def loaded (s : Surroundings) (a : Arguments) (root : String) : Except Problem Config :=
  match a.noConfig, a.config with
  | true, _ => .ok .default
  | false, some path => Config.read s.files s.directory path
  | false, none =>
    (Config.load s.files s.directory root).map fun found => (found.map (·.2)).getD .default

/-- What a scan needs of the configuration, once that is completed by the arguments. -/
def prepared (s : Surroundings) (a : Arguments) (root : String) :
    Except Problem (Selector × ScanOptions) := do
  let c ← loaded s a root
  let selector ← (a.applyTo c).selector
  let options ← ScanOptions.ofConfig (a.applyTo c)
  return (selector, options)

/-- The message about a configuration file has no part in what the configuration is. -/
theorem map_configFor (s : Surroundings) (a : Arguments) (root : String) :
    (configFor s a root).map (·.1) = loaded s a root := by
  rw [configFor, loaded]
  cases a.noConfig with
  | true => rfl
  | false =>
    simp only [Bool.false_eq_true, ↓reduceIte]
    cases a.config with
    | some path =>
      dsimp only
      cases Config.read s.files s.directory path <;> rfl
    | none =>
      cases Config.load s.files s.directory root with
      | error p => rfl
      | ok found =>
        cases found with
        | none => rfl
        | some found => rfl

variable {s s' : Surroundings} {a a' : Arguments} {root : String}

theorem configFor_eq_error {p : Problem} (h : loaded s a root = .error p) :
    configFor s a root = .error p := by
  rw [← map_configFor] at h
  cases hfound : configFor s a root with
  | error q =>
    rw [hfound] at h
    rw [Except.error.inj h]
  | ok found => simp [hfound, Except.map] at h

theorem exists_configFor_eq_ok {c : Config} (h : loaded s a root = .ok c) :
    ∃ message, configFor s a root = .ok (c, message) := by
  rw [← map_configFor] at h
  cases hfound : configFor s a root with
  | error q => simp [hfound, Except.map] at h
  | ok found =>
    rw [hfound] at h
    obtain rfl := Except.ok.inj h
    exact ⟨found.2, rfl⟩

/-! ### Endings -/

/-- What a run comes to. -/
inductive Ending where
  /-- There is no root directory. -/
  | badRoot
  /-- The configuration makes no sense. -/
  | badConfig
  /-- The files cannot be scanned. -/
  | scanFailed
  /-- There is a report. -/
  | reported (report : ScanReport)

/-- The exit code for an ending. -/
def Ending.code : Ending → Nat
  | .badRoot => 1
  | .badConfig => 2
  | .scanFailed => 3
  | .reported report => if ∃ r ∈ report.results, r.isOk = false then 4 else 0

/-- What a run writes to its main output when it ends. -/
def Ending.output (s : Surroundings) (a : Arguments) : Ending → String
  | .badRoot => ""
  | .badConfig => ""
  | .scanFailed => ""
  | .reported report => reportText s a report

/-- Only a report is written, and its exit codes are none of these. -/
theorem Ending.output_eq_empty {s : Surroundings} {a : Arguments} (e : Ending)
    (h : e.code ∈ [1, 2, 3]) : e.output s a = "" := by
  cases e with
  | badRoot => rfl
  | badConfig => rfl
  | scanFailed => rfl
  | reported report =>
    rw [Ending.code] at h
    split at h <;> simp at h

/-- How a run ends: by the first step that fails, or with a report. -/
inductive Ends (s : Surroundings) (a : Arguments) : Ending → Prop
  | badRoot (unrooted : rootOf s a = none) : Ends s a .badRoot
  | badConfig {root : String} {p : Problem} (rooted : rootOf s a = some root)
      (unprepared : prepared s a root = .error p) : Ends s a .badConfig
  | scanFailed {root : String} {selector : Selector} {options : ScanOptions} {p : Problem}
      (rooted : rootOf s a = some root) (prepared : prepared s a root = .ok (selector, options))
      (unscanned : scan s.files root selector options = .error p) : Ends s a .scanFailed
  | reported {root : String} {selector : Selector} {options : ScanOptions} {report : ScanReport}
      (rooted : rootOf s a = some root) (prepared : prepared s a root = .ok (selector, options))
      (scanned : scan s.files root selector options = .ok report) : Ends s a (.reported report)

/-- Every run ends. -/
theorem exists_ends (s : Surroundings) (a : Arguments) : ∃ e, Ends s a e := by
  cases hroot : rootOf s a with
  | none => exact ⟨_, .badRoot hroot⟩
  | some root =>
    cases hprepared : prepared s a root with
    | error p => exact ⟨_, .badConfig hroot hprepared⟩
    | ok needed =>
      cases hscan : scan s.files root needed.1 needed.2 with
      | error p => exact ⟨_, .scanFailed hroot hprepared hscan⟩
      | ok report => exact ⟨_, .reported hroot hprepared hscan⟩

/-! ### What a run leaves -/

theorem run_of_rootOf_none (h : rootOf s a = none) :
    (run s a).code = 1 ∧ (run s a).output = "" := by
  simp [run, h, badCommandLine]

theorem run_of_prepared_error {p : Problem} (hroot : rootOf s a = some root)
    (h : prepared s a root = .error p) : (run s a).code = 2 ∧ (run s a).output = "" := by
  -- Each of the three steps that can fail has a branch of its own in the run.
  rcases bind_error h with hload | ⟨c, hload, h⟩
  · simp [run, hroot, configFor_eq_error hload, failure, badConfig]
  · obtain ⟨message, hconfig⟩ := exists_configFor_eq_ok hload
    rcases bind_error h with hselector | ⟨selector, hselector, h⟩
    · simp [run, hroot, hconfig, hselector, failure, badConfig]
    · rcases bind_error h with hoptions | ⟨options, -, h⟩
      · simp [run, hroot, hconfig, hselector, hoptions, failure, badConfig]
      · simp [pure, Except.pure] at h

/-- A run that is prepared for a scan goes on with the scan. -/
theorem run_of_prepared_ok {selector : Selector} {options : ScanOptions}
    (hroot : rootOf s a = some root) (h : prepared s a root = .ok (selector, options)) :
    ∃ messages, run s a =
      match scan s.files root selector options with
      | .error p => failure scanFailed messages p
      | .ok report => finish s a messages report := by
  obtain ⟨c, hload, h⟩ := bind_ok h
  obtain ⟨message, hconfig⟩ := exists_configFor_eq_ok hload
  obtain ⟨selector', hselector, h⟩ := bind_ok h
  obtain ⟨options', hoptions, h⟩ := bind_ok h
  obtain ⟨rfl, rfl⟩ := Prod.mk.inj (Except.ok.inj h)
  refine ⟨message ++ warning (colours s a) selector', ?_⟩
  cases hscan : scan s.files root selector' options' with
  | error p => simp only [run, hroot, hconfig, hselector, hoptions, hscan]
  | ok report => simp only [run, hroot, hconfig, hselector, hoptions, hscan]

theorem finish_output (messages : String) (report : ScanReport) :
    (finish s a messages report).output = reportText s a report := by
  rw [finish]
  split <;> rfl

theorem finish_code (messages : String) (report : ScanReport) :
    (finish s a messages report).code = (Ending.reported report).code := by
  rw [finish, Ending.code, Report.isOk]
  by_cases h : report.results.all TemplateResult.isOk = true
  · have hall : ¬ ∃ r ∈ report.results, r.isOk = false := by
      rintro ⟨r, hr, hfails⟩
      simp [List.all_eq_true.mp h r hr] at hfails
    simp only [h, hall, ↓reduceIte]
  · have hsome : ∃ r ∈ report.results, r.isOk = false := by
      simpa using h
    simp only [h, hsome, ↓reduceIte, Bool.false_eq_true, templatesFailed]

theorem Ends.run {e : Ending} (h : Ends s a e) :
    (run s a).code = e.code ∧ (run s a).output = e.output s a := by
  cases h with
  | badRoot unrooted => exact run_of_rootOf_none unrooted
  | badConfig rooted unprepared => exact run_of_prepared_error rooted unprepared
  | scanFailed rooted prepared unscanned =>
    obtain ⟨messages, hrun⟩ := run_of_prepared_ok rooted prepared
    rw [hrun, unscanned]
    exact ⟨rfl, rfl⟩
  | reported rooted prepared scanned =>
    obtain ⟨messages, hrun⟩ := run_of_prepared_ok rooted prepared
    rw [hrun, scanned]
    exact ⟨finish_code messages _, finish_output messages _⟩

/-! ### What is presentation -/

/-- Two runs that differ in how they present their report: in its format, in whether it is verbose,
and in what turns its colours off. -/
structure Alike (s : Surroundings) (a : Arguments) (s' : Surroundings) (a' : Arguments) : Prop where
  files : s'.files = s.files
  directory : s'.directory = s.directory
  environment : ∀ name, name ≠ "NO_COLOR" → s'.environment name = s.environment name
  root : a'.root = a.root
  noConfig : a'.noConfig = a.noConfig
  config : a'.config = a.config
  samples : a'.samples = a.samples
  templates : a'.templates = a.templates

/-- The variable that turns colours off matters to the root directory only if it is named there. -/
theorem Alike.rootOf_eq (h : Alike s a s' a') (hnames : "NO_COLOR" ∉ names a.root) :
    rootOf s' a' = rootOf s a := by
  have hexpand : expand s'.environment a.root = expand s.environment a.root := by
    refine expand_congr fun name hname => h.environment name ?_
    rintro rfl
    exact hnames hname
  rw [rootOf, rootOf, h.root, h.directory, hexpand]

theorem Alike.prepared_eq (h : Alike s a s' a') (root : String) :
    prepared s' a' root = prepared s a root := by
  have hload : loaded s' a' root = loaded s a root := by
    rw [loaded, loaded, h.noConfig, h.config, h.files, h.directory]
  have happly : a'.applyTo = a.applyTo := by
    funext c
    rw [Arguments.applyTo, Arguments.applyTo, h.templates, h.samples]
  rw [prepared, prepared, hload, happly]

/-- Runs that differ in presentation end alike. -/
theorem Ends.alike {e : Ending} (h : Ends s a e) (halike : Alike s a s' a')
    (hroot : rootOf s' a' = rootOf s a) : Ends s' a' e := by
  cases h with
  | badRoot unrooted => exact .badRoot (hroot.trans unrooted)
  | badConfig rooted unprepared =>
    exact .badConfig (hroot.trans rooted) ((halike.prepared_eq _).trans unprepared)
  | scanFailed rooted prepared unscanned =>
    rw [← halike.files] at unscanned
    exact .scanFailed (hroot.trans rooted) ((halike.prepared_eq _).trans prepared) unscanned
  | reported rooted prepared scanned =>
    rw [← halike.files] at scanned
    exact .reported (hroot.trans rooted) ((halike.prepared_eq _).trans prepared) scanned

/-- A report that is written as JSON is not presented in any other way. -/
theorem output_of_json (e : Ending) (h : a.format = .json) (h' : a'.format = .json) :
    e.output s' a' = e.output s a := by
  cases e with
  | badRoot => rfl
  | badConfig => rfl
  | scanFailed => rfl
  | reported report => simp only [Ending.output, reportText, h, h']

/-- A run ends by the first step that fails, or with a report, and this decides its exit code;
unless there is a report, nothing is written to the main output. The exit code of two runs that
differ in presentation is the same, and so is their output if it is JSON; only, if the root
directory is given by the variable that turns colours off, it must be the same. -/
theorem main_ends (s : Surroundings) (words : List String) (a : Arguments)
    (h : CommandLine.read words = .ok a) :
    (∃ e, Ends s a e) ∧
    (∀ e, Ends s a e → (main s words).code = e.code ∧
      (e.code ∈ [1, 2, 3] → (main s words).output = "")) ∧
    ∀ s' words' a', CommandLine.read words' = .ok a' → Alike s a s' a' →
      ("NO_COLOR" ∈ names a.root → rootOf s' a' = rootOf s a) →
      (main s' words').code = (main s words).code ∧
      (a.format = .json → a'.format = .json → (main s' words').output = (main s words).output) := by
  have hmain : main s words = run s a := by rw [main, h]
  refine ⟨exists_ends s a, fun e he => ?_, fun s' words' a' h' halike hnames => ?_⟩
  · rw [hmain]
    exact ⟨he.run.1, fun hcode => he.run.2.trans (e.output_eq_empty hcode)⟩
  · have hmain' : main s' words' = run s' a' := by rw [main, h']
    have hroot : rootOf s' a' = rootOf s a := by
      by_cases hname : "NO_COLOR" ∈ names a.root
      · exact hnames hname
      · exact halike.rootOf_eq hname
    obtain ⟨e, he⟩ := exists_ends s a
    have he' := he.alike halike hroot
    rw [hmain, hmain', he.run.1, he'.run.1, he.run.2, he'.run.2]
    exact ⟨rfl, output_of_json e⟩

/-- The variables with these values. -/
def holding (values : List (String × String)) (name : String) : Option String :=
  values.lookup name

theorem holding_concat_of_ne (values : List (String × String)) {name other value : String}
    (h : name ≠ other) : holding (values ++ [(other, value)]) name = holding values name := by
  simp [holding, List.lookup_append, beq_false_of_ne h]

/-- One template, which does not compile. -/
def brokenTree : FileTree.Node :=
  .dir [("in", .dir [("a.tmpl", .file [0x7b, 0x7b, 0x20, 0x78])])]

/-- Arguments without a configuration file, for the templates below a root. -/
def templatesBelow (root : String) : Arguments :=
  { Arguments.default with root, noConfig := true, templates := ["*.tmpl"], format := .json }

theorem main_ends_brokenTree :
    let s : Surroundings := ⟨brokenTree, "/", holding [("TREE", "/in")]⟩
    let s' : Surroundings := ⟨brokenTree, "/", holding [("TREE", "/in"), ("NO_COLOR", "1")]⟩
    let words := ["--root=$TREE", "--no-cfg", "-t", "*.tmpl", "--format=json"]
    CommandLine.read words = .ok (templatesBelow "$TREE") ∧
    (∃ e, Ends s (templatesBelow "$TREE") e ∧ e.code = 4) ∧
    (main s' (words ++ ["--no-color", "-v"])).code = 4 ∧
    (main s' (words ++ ["--no-color", "-v"])).output = (main s words).output := by
  intro s s' words
  have hread : CommandLine.read words = .ok (templatesBelow "$TREE") := by
    decide +kernel
  have hread' : CommandLine.read (words ++ ["--no-color", "-v"]) =
      .ok { templatesBelow "$TREE" with verbose := true, noColour := true } := by
    decide +kernel
  have hfails : (main s words).code = 4 := by
    decide +kernel
  have halike : Alike s (templatesBelow "$TREE") s'
      { templatesBelow "$TREE" with verbose := true, noColour := true } :=
    ⟨rfl, rfl, fun _ => holding_concat_of_ne [("TREE", "/in")], rfl, rfl, rfl, rfl, rfl⟩
  have hnames : "NO_COLOR" ∉ names (templatesBelow "$TREE").root := by
    decide +kernel
  obtain ⟨⟨e, he⟩, hcode, hsame⟩ := main_ends s words _ hread
  obtain ⟨hcode', houtput⟩ := hsame s' _ _ hread' halike fun h => absurd h hnames
  exact ⟨hread, ⟨e, he, (hcode e he).1.symm.trans hfails⟩, hcode'.trans hfails, houtput rfl rfl⟩

/-- A root directory that the variable for colours gives makes the exit code depend on it. -/
theorem main_ends_by_colour_variable :
    let words := ["--no-cfg", "-R", "$NO_COLOR"]
    let a : Arguments := { Arguments.default with root := "$NO_COLOR", noConfig := true }
    let s : Surroundings := ⟨.dir [], "/", holding []⟩
    let s' : Surroundings := ⟨.dir [], "/", holding [("NO_COLOR", ".")]⟩
    CommandLine.read words = .ok a ∧ Alike s a s' a ∧
    (main s words).code = 1 ∧ (main s' words).code = 0 := by
  intro words a s s'
  have halike : Alike s a s' a :=
    ⟨rfl, rfl, fun _ => holding_concat_of_ne [], rfl, rfl, rfl, rfl, rfl⟩
  exact ⟨by decide +kernel, halike, by decide +kernel, by decide +kernel⟩

end TemplateCheck.Program
