import TemplateCheck.MediaType
import TemplateCheck.Proofs.Scan.Names

/-!
# Where problems stand

A scan meets problems of many kinds. Only two end it, and each of the others stands in the result of
the file that it is about.

* `Scan.EndsScan` — a fault of the walk, or a visited file that cannot be read;
* `Scan.OfTemplate`, `Scan.OfSample` — what can be wrong with a template, and with a template and
  one of its samples;
* `Scan.Placed` — a result has the problem of its own file, and its samples have theirs;
* `scan_places_problems` — what ends a scan, when nothing does, and what the results then say.
-/

namespace TemplateCheck

namespace Scan

open TemplateCheck.Path (relativeName)

/-! ### Kinds of problems -/

/-- What ends a scan. -/
inductive EndsScan (top : FileTree.Node) (root : String) (gitignore : Bool) : Problem → Prop
  | walk {fault : FileFault} (met : .error fault ∈ Walk.files top root gitignore) :
      EndsScan top root gitignore (.walk root .walk)
  | read {path : String} {fault : FileFault} (visited : Walk.Visits top root gitignore path)
      (unreadable : FileTree.bytesAt top path = .error fault) :
      EndsScan top root gitignore (.unreadable path fault)

/-- What can be wrong with the template `name` by itself. -/
inductive OfTemplate (name : String) : Problem → Prop
  | parse (reason : Reason) : OfTemplate name (.templateParse name reason)

/-- What can be wrong with a template and the sample `sample`. -/
inductive OfSample (template sample : String) : Problem → Prop
  | load (reason : Reason) : OfSample template sample (.sampleLoad sample reason)
  | render (reason : Reason) : OfSample template sample (.templateRender template reason)
  | output (mediaType : String) (reason : Reason) :
      OfSample template sample (.invalidOutput mediaType reason)

theorem parse_error {parser : Parser} {name source : String} {p : Problem}
    (h : parser.parse name source = .error p) : OfTemplate name p := by
  rw [Parser.parse] at h
  split at h
  · simp at h
  · obtain rfl := Except.error.inj h
    exact .parse _

theorem compile_error {parser : Parser} {name : String} {bytes : List UInt8} {p : Problem}
    (h : compile parser name bytes = .error p) : OfTemplate name p := by
  rw [compile] at h
  split at h
  · exact parse_error h
  · obtain rfl := Except.error.inj h
    exact .parse _

theorem render_error {t : Template} {m : Model} {p : Problem} (h : t.render m = .error p) :
    ∃ reason, p = .templateRender t.name reason := by
  rw [Template.render] at h
  split at h
  · simp at h
  · exact ⟨_, (Except.error.inj h).symm⟩

theorem validateOutput_error {t : Template} {text : String} {p : Problem}
    (h : t.validateOutput text = .error p) :
    ∃ reason, p = .invalidOutput (MediaType.essence t.mediaType) reason := by
  rw [Template.validateOutput] at h
  rcases MediaType.validate_cases t.mediaType text with haccepted | ⟨reason, hrefused⟩
  · rw [haccepted] at h
    cases h
  · rw [hrefused] at h
    exact ⟨reason, (Except.error.inj h).symm⟩

/-- Whichever stage fails, the problem is about this template or this sample. -/
theorem Evaluates.ofSample {top : FileTree.Node} {options : ScanOptions} {t : Template}
    {name path : String} {p : Problem} (h : Evaluates top options t name path (some p)) :
    OfSample t.name name p := by
  cases h with
  | undecoded _ _ => exact .load _
  | unrendered _ _ _ hrendered =>
    obtain ⟨reason, rfl⟩ := render_error hrendered
    exact .render reason
  | invalid _ _ _ _ hvalidated =>
    obtain ⟨reason, rfl⟩ := validateOutput_error hvalidated
    exact .output _ reason

/-! ### What ends a scan -/

variable {top : FileTree.Node} {root : String} {selector : Selector} {options : ScanOptions}

theorem takeFile_error {samples : Matcher} {found : Samples × ScanReport} {path : String}
    {p : Problem} (h : takeFile top root selector samples found path = .error p) :
    ∃ fault, FileTree.bytesAt top path = .error fault ∧ p = .unreadable path fault := by
  rw [takeFile] at h
  split at h
  · simp at h
  · simp at h
  · split at h
    · rename_i fault hread
      exact ⟨fault, hread, (Except.error.inj h).symm⟩
    · simp at h

/-- A walk whose files cannot all be taken has a fault, or a file that cannot be read. -/
theorem sort_error {samples : Matcher} {gitignore : Bool} {p : Problem}
    (h : sort top root selector samples (Walk.files top root gitignore) = .error p) :
    EndsScan top root gitignore p := by
  obtain ⟨found, event, hevent, htake⟩ := exists_of_foldlM_error h
  cases event with
  | error fault =>
    obtain rfl := Except.error.inj htake
    exact .walk hevent
  | ok path =>
    obtain ⟨fault, hread, rfl⟩ := takeFile_error htake
    exact .read hevent hread

/-- Only a registered sample that cannot be read keeps a result from being made. -/
theorem resultAfresh_error {paths : KeyMap String} {a : Attempt} {p : Problem}
    (h : resultAfresh top options paths a = .error p) :
    ∃ name path fault, paths.get? name = some path ∧ FileTree.bytesAt top path = .error fault ∧
      p = .unreadable path fault := by
  rw [resultAfresh] at h
  split at h
  · simp [pure, Except.pure] at h
  · rename_i t _
    rcases bind_error h with h | ⟨samples, -, h⟩
    · obtain ⟨name, hname, h⟩ := exists_of_mapM_error h
      obtain ⟨⟨path, hpath⟩, -⟩ := (mem_matching_iff _ _ _).mp hname
      obtain ⟨fault, hread, rfl⟩ := checkAfresh_error hpath h
      exact ⟨name, path, fault, hpath, hread, rfl⟩
    · simp [pure, Except.pure] at h

theorem mem_of_get?_registered {samples : Matcher} {paths : List String} {name path : String}
    (h : (registered root samples paths).get? name = some path) : path ∈ paths := by
  obtain ⟨visited, -, -, -⟩ := registeredAt_iff.mpr h
  rw [visited]
  exact List.mem_append_right _ List.mem_cons_self

theorem endsScan_of_error {p : Problem} (h : scan top root selector options = .error p) :
    EndsScan top root options.gitignore p := by
  rw [scan] at h
  rcases bind_error h with h | ⟨found, hsort, h⟩
  · exact sort_error h
  · obtain ⟨paths, hwalk, -, rfl⟩ := sort_ok hsort
    simp only at h
    split at h
    · simp [pure, Except.pure] at h
    · rcases bind_error h with h | ⟨results, -, h⟩
      · have hafresh := (withSamples_replays top options (registered root options.samples paths)
          (attempts top root selector options.samples paths)).eq_error
          (Samples.kept_of_loaded_empty top _) h
        obtain ⟨a, -, h⟩ := exists_of_mapM_error hafresh
        obtain ⟨name, path, fault, hpath, hread, rfl⟩ := resultAfresh_error h
        exact .read ((Walk.visits_iff hwalk path).mpr (mem_of_get?_registered hpath)) hread
      · simp [pure, Except.pure] at h

/-! ### What results say -/

/-- The file at a path is refused as the template `name`, by the parser that is picked for it. -/
inductive Refuses (top : FileTree.Node) (selector : Selector) (name path : String) (p : Problem) :
    Prop
  | intro {parser : Parser} {bytes : List UInt8} (selected : selector.select? name = some parser)
      (read : FileTree.bytesAt top path = .ok bytes)
      (refused : compile parser name bytes = .error p)

/-- A result has the problem of its own file, and the samples in it have theirs. -/
structure Placed (top : FileTree.Node) (root : String) (selector : Selector)
    (options : ScanOptions) (paths : List String) (path : String) (r : TemplateResult) :
    Prop where
  checked : Checked top root selector options paths path r
  problem_iff : ∀ p, r.problem = some p ↔ Refuses top selector r.name path p
  ofTemplate : ∀ p, r.problem = some p → OfTemplate r.name p
  ofSample : ∀ s ∈ r.samples, ∀ p, s.problem = some p → OfSample r.name s.name p

variable {paths : List String}

/-- The samples in a result have problems with its template or with themselves. -/
theorem Checked.ofSample {path : String} {r : TemplateResult}
    (h : Checked top root selector options paths path r) :
    ∀ s ∈ r.samples, ∀ p, s.problem = some p → OfSample r.name s.name p := by
  intro s hs p hp
  cases h with
  | refused _ _ hnone =>
    rw [hnone] at hs
    exact absurd hs List.not_mem_nil
  | compiled _ _ _ _ hname hsampled =>
    obtain ⟨source, -, hevaluates⟩ := hsampled.evaluated s hs
    rw [hp] at hevaluates
    exact hname ▸ hevaluates.ofSample

theorem refuses_iff {parser : Parser} {name path : String} {bytes : List UInt8}
    (hselect : selector.select? name = some parser)
    (hread : FileTree.bytesAt top path = .ok bytes) (p : Problem) :
    Refuses top selector name path p ↔ compile parser name bytes = .error p := by
  constructor
  · rintro ⟨selected, read, refused⟩
    obtain rfl := Option.some.inj (selected.symm.trans hselect)
    obtain rfl := Except.ok.inj (read.symm.trans hread)
    exact refused
  · exact fun h => ⟨hselect, hread, h⟩

theorem placed_of_resultAfresh {path : String} {a : Attempt} {r : TemplateResult}
    (hattempt : attempt? top root selector options.samples path = some a)
    (h : resultAfresh top options (registered root options.samples paths) a = .ok r) :
    Placed top root selector options paths path r := by
  have hchecked := checked_of_resultAfresh hattempt h
  obtain ⟨hname, hproblem⟩ := resultAfresh_name h
  obtain ⟨parser, bytes, hselect, hread, rfl⟩ := attempt?_eq_some hattempt
  have hiff : ∀ p, r.problem = some p ↔ compile parser r.name bytes = .error p := by
    intro p
    rw [hproblem, Attempt.problem_bare_eq_some_iff, hname]
  refine ⟨hchecked, fun p => ?_, fun p hp => ?_, hchecked.ofSample⟩
  · have hselect' : selector.select? r.name = some parser := by rw [hname, hselect]
    rw [hiff, refuses_iff hselect' hread]
  · exact compile_error ((hiff p).mp hp)

end Scan

open Scan in
/-- Only a fault of the walk and a visited file that cannot be read end a scan. Without these it
succeeds, whatever the files hold. In the report of a scan that succeeds, each file that is to be a
template has its result in its place, with the problem of this file alone, and the samples in it
have problems with this template or with themselves alone. -/
theorem scan_places_problems (top : FileTree.Node) (root : String) (selector : Selector)
    (options : ScanOptions) :
    (∀ p, scan top root selector options = .error p → EndsScan top root options.gitignore p) ∧
    ((∀ event ∈ Walk.files top root options.gitignore,
        ∃ path bytes, event = .ok path ∧ FileTree.bytesAt top path = .ok bytes) →
      ∃ report, scan top root selector options = .ok report) ∧
    ∀ report, scan top root selector options = .ok report →
      ∃ paths, Walk.files top root options.gitignore = paths.map .ok ∧
        List.Forall₂ (Placed top root selector options paths)
          (paths.filter fun path =>
            isSelected selector options.samples (Path.relativeName root path))
          report.results := by
  refine ⟨fun p h => endsScan_of_error h, fun hreadable => ?_, fun report h => ?_⟩
  · cases hscan : scan top root selector options with
    | ok report => exact ⟨report, rfl⟩
    | error p =>
      cases endsScan_of_error hscan with
      | walk met =>
        obtain ⟨path, bytes, hevent, -⟩ := hreadable _ met
        simp at hevent
      | read visited unreadable =>
        obtain ⟨path, bytes, hevent, hread⟩ := hreadable _ visited
        obtain rfl := Except.ok.inj hevent
        simp [unreadable] at hread
  · obtain ⟨paths, hwalk, hreadable, -, hresults⟩ := scan_ok h
    refine ⟨paths, hwalk, ?_⟩
    refine (forall₂_trans (forall₂_attempts hreadable) hresults).imp fun path r => ?_
    rintro ⟨a, hattempt, hresult⟩
    exact placed_of_resultAfresh hattempt hresult

namespace Scan

/-- A block without a body, which may not be rendered. -/
def requiredBlock : List UInt8 :=
  [0x7b, 0x25, 0x20, 0x62, 0x6c, 0x6f, 0x63, 0x6b, 0x20, 0x62, 0x20, 0x72, 0x65, 0x71,
    0x75, 0x69, 0x72, 0x65, 0x64, 0x20, 0x25, 0x7d, 0x7b, 0x25, 0x20, 0x65, 0x6e, 0x64,
    0x62, 0x6c, 0x6f, 0x63, 0x6b, 0x20, 0x25, 0x7d]

/-- A template whose output is no JSON, with one sample that is a model and two that are none; one
that is no text and one that does not compile; one that cannot be rendered; and one that passes. -/
def faultyTree : FileTree.Node :=
  .dir [("in", .dir [
    ("a.json", .file [0x7b, 0x7d]),
    ("a.tmpl", .file [0x61]),
    ("a.x.json", .file [0x78]),
    ("a.y.json", .file [0xff]),
    ("b.tmpl", .file [0xff]),
    ("c.tmpl", .file [0x7b, 0x7b, 0x20, 0x78]),
    ("d.json", .file [0x7b, 0x7d]),
    ("d.tmpl", .file requiredBlock),
    ("e.json", .file [0x7b, 0x7d]),
    ("e.tmpl", .file [0x31])])]

/-- What ends in `.tmpl` is a template, whose output is to be JSON and whose values must be
there. -/
def strictSelector : Selector :=
  ⟨[⟨endingIn ".tmpl", ⟨.text, .error, .standard, none, KeyMap.empty, .none⟩⟩]⟩

end Scan

open Scan in
theorem scan_places_problems_faultyTree :
    (scan faultyTree "/out" strictSelector jsonSamples = .error (.walk "/out" .walk) ∧
      EndsScan faultyTree "/out" false (.walk "/out" .walk)) ∧
    ∃ report, scan faultyTree "/in" strictSelector jsonSamples = .ok report ∧
      report.results.map (fun r => (r.name, r.problem.map Problem.code,
        r.samples.map fun s => (s.name, s.problem.map Problem.code))) =
        [("a.tmpl", none, [("a.json", some "thoth::invalid_output"),
          ("a.x.json", some "thoth::sample_load"), ("a.y.json", some "thoth::sample_load")]),
        ("b.tmpl", some "thoth::template_parse", []), ("c.tmpl", some "thoth::template_parse", []),
        ("d.tmpl", none, [("d.json", some "thoth::template_render")]),
        ("e.tmpl", none, [("e.json", none)])] ∧
      ∃ paths, Walk.files faultyTree "/in" false = paths.map .ok ∧
        List.Forall₂ (Placed faultyTree "/in" strictSelector jsonSamples paths)
          (paths.filter fun path =>
            isSelected strictSelector jsonSamples.samples (Path.relativeName "/in" path))
          report.results := by
  have hout : scan faultyTree "/out" strictSelector jsonSamples = .error (.walk "/out" .walk) := rfl
  have hreadable : ∀ event ∈ Walk.files faultyTree "/in" false,
      ∃ path bytes, event = .ok path ∧ FileTree.bytesAt faultyTree path = .ok bytes := by
    have hall : (Walk.files faultyTree "/in" false).all (fun event =>
        (event.bind (FileTree.bytesAt faultyTree)).toOption.isSome) = true := by
      decide +kernel
    intro event hevent
    have hsome := List.all_eq_true.mp hall event hevent
    obtain ⟨bytes, hbytes⟩ := Option.isSome_iff_exists.mp hsome
    obtain ⟨path, hpath, hread⟩ := bind_ok (eq_ok_of_toOption hbytes)
    exact ⟨path, bytes, hpath, hread⟩
  have hends := (scan_places_problems faultyTree "/out" strictSelector jsonSamples).1 _ hout
  obtain ⟨-, hsucceeds, hplaced⟩ := scan_places_problems faultyTree "/in" strictSelector jsonSamples
  obtain ⟨report, hscan⟩ := hsucceeds hreadable
  have hrun : (scan faultyTree "/in" strictSelector jsonSamples).toOption.map
      (·.results.map fun r => (r.name, r.problem.map Problem.code,
        r.samples.map fun s => (s.name, s.problem.map Problem.code))) =
        some [("a.tmpl", none, [("a.json", some "thoth::invalid_output"),
          ("a.x.json", some "thoth::sample_load"), ("a.y.json", some "thoth::sample_load")]),
        ("b.tmpl", some "thoth::template_parse", []), ("c.tmpl", some "thoth::template_parse", []),
        ("d.tmpl", none, [("d.json", some "thoth::template_render")]),
        ("e.tmpl", none, [("e.json", none)])] := by
    decide +kernel
  rw [hscan] at hrun
  exact ⟨⟨hout, hends⟩, report, hscan, Option.some.inj hrun, hplaced report hscan⟩

end TemplateCheck
