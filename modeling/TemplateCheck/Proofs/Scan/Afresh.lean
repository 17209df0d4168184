import TemplateCheck.Scan
import TemplateCheck.Proofs.Samples
import TemplateCheck.Proofs.Success

/-!
# A scan without kept samples

A scan pairs templates with results by going through two lists at once, and keeps the samples that
it has read for all templates. Here each result is made on its own, from what became of its own
file.

* `Attempt` — what became of a file that was to be a template;
* `Scan.resultAfresh` — the result of an attempt, with every sample read for this once;
* `Scan.withSamples_replays` — a scan gives these results.
-/

namespace TemplateCheck

/-- What became of a file that was to be a template. -/
structure Attempt where
  name : String
  outcome : Except Problem Template

namespace Attempt

/-- The template, if it compiled. -/
def template? (a : Attempt) : Option Template :=
  match a.outcome with
  | .ok t => some t
  | .error _ => none

/-- The result before any samples. -/
def bare (a : Attempt) : TemplateResult :=
  match a.outcome with
  | .ok _ => ⟨a.name, none, []⟩
  | .error p => ⟨a.name, some p, []⟩

theorem problem_bare_eq_some_iff {a : Attempt} {p : Problem} :
    a.bare.problem = some p ↔ a.outcome = .error p := by
  obtain ⟨name, outcome⟩ := a
  cases outcome with
  | error q => simp [bare]
  | ok t => simp [bare]

end Attempt

namespace Scan

/-! ### Results one by one -/

/-- One template rendered with the sample that has a name, read for this once. -/
def checkAfresh (top : FileTree.Node) (options : ScanOptions) (paths : KeyMap String)
    (t : Template) (name : String) : Except Problem SampleResult := do
  match ← Samples.readAfresh top paths name with
  | .error p => return ⟨name, some p⟩
  | .ok m => return ⟨name, problem? options t m⟩

/-- What is wrong with a template and the sample with a name, once that is decoded. -/
def verdict (options : ScanOptions) (t : Template) (name : String) :
    Except Reason Model → Option Problem
  | .error reason => some (.sampleLoad name reason)
  | .ok m => problem? options t m

/-- The names of the samples for a template, in order. -/
def matching (paths : KeyMap String) (template : String) : List String :=
  paths.keys.filter (Sample.belongsTo template)

theorem mem_matching_iff (paths : KeyMap String) (template name : String) :
    name ∈ matching paths template ↔
      (∃ path, paths.get? name = some path) ∧ Sample.belongsTo template name = true := by
  rw [matching, List.mem_filter, KeyMap.mem_keys_iff, Option.isSome_iff_exists]

/-- The names of the samples for a template stand in ascending order. -/
theorem pairwise_matching (paths : KeyMap String) (template : String) :
    (matching paths template).Pairwise (· < ·) :=
  paths.pairwise_keys.filter _

/-- The result of an attempt, with every sample read for this once. -/
def resultAfresh (top : FileTree.Node) (options : ScanOptions) (paths : KeyMap String)
    (a : Attempt) : Except Problem TemplateResult :=
  match a.outcome with
  | .error p => return ⟨a.name, some p, []⟩
  | .ok t => do
    let samples ← (matching paths t.name).mapM (checkAfresh top options paths t)
    return ⟨a.name, none, samples⟩

/-! ### The same with kept samples -/

variable (top : FileTree.Node) (options : ScanOptions) (paths : KeyMap String)

theorem check_replays (t : Template) (name : String) :
    Samples.Replays top paths (check top options t name)
      (checkAfresh top options paths t name) := by
  refine Samples.Replays.bind (Samples.load_replays name) fun found => ?_
  cases found with
  | error p => exact Samples.Replays.pure _
  | ok m => exact Samples.Replays.pure _

theorem checkAll_replays (t : Template) :
    Samples.Replays top paths (checkAll top options t)
      ((matching paths t.name).mapM (checkAfresh top options paths t)) := by
  refine Samples.Replays.get_bind fun s hs => ?_
  rw [Samples.matching, hs]
  exact Samples.Replays.mapM (check_replays top options paths t) _

/-- The templates stand in the order of the results without a problem, so that going through both
lists at once gives each result the template of its own file. -/
theorem withSamples_replays (attempts : List Attempt) :
    Samples.Replays top paths
      (withSamples top options (attempts.filterMap Attempt.template?)
        (attempts.map Attempt.bare))
      (attempts.mapM (resultAfresh top options paths)) := by
  induction attempts with
  | nil =>
    rw [List.mapM_nil]
    exact Samples.Replays.pure []
  | cons a attempts ih =>
    obtain ⟨name, outcome⟩ := a
    rw [List.mapM_cons, List.map_cons]
    cases outcome with
    | error p =>
      have hnone : Attempt.template? ⟨name, .error p⟩ = none := rfl
      rw [List.filterMap_cons_none hnone]
      exact ih.bind fun rs => Samples.Replays.pure (_ :: rs)
    | ok t =>
      have hsome : Attempt.template? ⟨name, .ok t⟩ = some t := rfl
      rw [List.filterMap_cons_some hsome, resultAfresh]
      simp only [bind_assoc, pure_bind]
      exact (checkAll_replays top options paths t).bind fun samples =>
        ih.bind fun rs => Samples.Replays.pure (_ :: rs)

/-! ### No samples at all -/

variable {top : FileTree.Node} {options : ScanOptions} {paths : KeyMap String}

/-- Without samples the result of an attempt says only whether the file compiled. -/
theorem resultAfresh_of_isEmpty (h : paths.entries.isEmpty = true) (a : Attempt) :
    resultAfresh top options paths a = .ok a.bare := by
  obtain ⟨name, outcome⟩ := a
  cases outcome with
  | error p => rfl
  | ok t =>
    have hnone : matching paths t.name = [] := by
      rw [matching, KeyMap.keys, List.isEmpty_iff.mp h]
      rfl
    simp only [resultAfresh, hnone, List.mapM_nil]
    rfl

theorem mapM_resultAfresh_of_isEmpty (h : paths.entries.isEmpty = true)
    (attempts : List Attempt) :
    attempts.mapM (resultAfresh top options paths) = .ok (attempts.map Attempt.bare) := by
  induction attempts with
  | nil => rfl
  | cons a attempts ih =>
    rw [List.mapM_cons, resultAfresh_of_isEmpty h, ih]
    rfl

/-! ### What a sample was judged by -/

/-- A sample that could be read was judged by what its file holds. -/
theorem checkAfresh_ok {top : FileTree.Node} {options : ScanOptions} {paths : KeyMap String}
    {t : Template} {name path : String} {s : SampleResult} (hpath : paths.get? name = some path)
    (h : checkAfresh top options paths t name = .ok s) :
    ∃ bytes, FileTree.bytesAt top path = .ok bytes ∧
      s = ⟨name, verdict options t name (Sample.decode path bytes)⟩ := by
  rw [checkAfresh, Samples.readAfresh, hpath] at h
  cases hread : FileTree.bytesAt top path with
  | error fault => simp [hread, bind, Except.bind] at h
  | ok bytes =>
    simp only [hread] at h
    refine ⟨bytes, rfl, ?_⟩
    cases hdecoded : Sample.decode path bytes with
    | error reason =>
      rw [hdecoded] at h
      exact (Except.ok.inj h).symm
    | ok own =>
      rw [hdecoded] at h
      exact (Except.ok.inj h).symm

/-- A sample could not be judged because its file cannot be read. -/
theorem checkAfresh_error {top : FileTree.Node} {options : ScanOptions} {paths : KeyMap String}
    {t : Template} {name path : String} {p : Problem} (hpath : paths.get? name = some path)
    (h : checkAfresh top options paths t name = .error p) :
    ∃ fault, FileTree.bytesAt top path = .error fault ∧ p = .unreadable path fault := by
  rw [checkAfresh, Samples.readAfresh, hpath] at h
  cases hread : FileTree.bytesAt top path with
  | error fault =>
    simp only [hread] at h
    exact ⟨fault, rfl, (Except.error.inj h).symm⟩
  | ok bytes =>
    simp only [hread] at h
    rcases bind_error h with h | ⟨found, -, h⟩
    · simp at h
    · cases found <;> simp [pure, Except.pure] at h

end Scan

end TemplateCheck
