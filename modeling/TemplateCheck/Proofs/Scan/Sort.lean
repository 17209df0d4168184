import TemplateCheck.Proofs.Scan.Afresh

/-!
# What a scan makes of the files it visits

A scan takes the files of a walk one after the other. What it has then is told here without any
order of steps: each file by itself says what it was taken for.

* `Scan.registered` — the samples among visited files, `Scan.get?_registered` — the last file with a
  name counts;
* `Scan.attempt?`, `Scan.attempts` — what became of the other files;
* `Scan.sort_ok`, `Scan.sort_eq` — after a walk without a fault, a scan has these samples and these
  attempts;
* `scan_ok`, `scan_eq` — the report of a scan that succeeds.
-/

namespace TemplateCheck

namespace Scan

open TemplateCheck.Path (relativeName)

/-! ### Samples among visited files -/

/-- The samples with one more file, if it is a sample. -/
def register (root : String) (samples : Matcher) (paths : KeyMap String) (path : String) :
    KeyMap String :=
  if samples.isMatch (relativeName root path) then paths.insert (relativeName root path) path
  else paths

/-- The samples among visited files. -/
def registered (root : String) (samples : Matcher) (paths : List String) : KeyMap String :=
  paths.foldl (register root samples) KeyMap.empty

theorem get?_register (root : String) (samples : Matcher) (m : KeyMap String)
    (path name : String) :
    (register root samples m path).get? name =
      (if relativeName root path = name ∧ samples.isMatch name = true then some path
        else none).or (m.get? name) := by
  rw [register]
  by_cases hname : relativeName root path = name
  · subst hname
    by_cases hmatch : samples.isMatch (relativeName root path) = true
    · rw [if_pos hmatch, if_pos ⟨rfl, hmatch⟩, KeyMap.get?_insert, if_pos rfl, Option.some_or]
    · rw [if_neg hmatch, if_neg (fun h => hmatch h.2), Option.none_or]
  · rw [if_neg (fun h : _ ∧ _ => hname h.1), Option.none_or]
    split
    · rw [KeyMap.get?_insert, if_neg (Ne.symm hname)]
    · rfl

theorem get?_foldl_register (root : String) (samples : Matcher) (m : KeyMap String)
    (paths : List String) (name : String) :
    (paths.foldl (register root samples) m).get? name =
      (if samples.isMatch name then paths.reverse.find? (relativeName root · == name)
        else none).or (m.get? name) := by
  induction paths generalizing m with
  | nil => simp
  | cons path paths ih =>
    rw [List.foldl_cons, ih, get?_register, List.reverse_cons, List.find?_append, ← Option.or_assoc]
    congr 1
    by_cases hname : relativeName root path = name <;>
      by_cases hmatch : samples.isMatch name = true <;> simp [hname, hmatch]

/-- Of the files that are samples under one name, the one visited last is registered. -/
theorem get?_registered (root : String) (samples : Matcher) (paths : List String)
    (name : String) :
    (registered root samples paths).get? name =
      if samples.isMatch name then paths.reverse.find? (relativeName root · == name)
      else none := by
  rw [registered, get?_foldl_register, KeyMap.get?_empty, Option.or_none]

/-! ### Attempts -/

/-- What became of a visited file, if it was to be a template. -/
def attempt? (top : FileTree.Node) (root : String) (selector : Selector) (samples : Matcher)
    (path : String) : Option Attempt :=
  match roleOf selector samples (relativeName root path), FileTree.bytesAt top path with
  | .template parser, .ok bytes =>
    some ⟨relativeName root path, compile parser (relativeName root path) bytes⟩
  | _, _ => none

/-- What became of the visited files that were to be templates. -/
def attempts (top : FileTree.Node) (root : String) (selector : Selector) (samples : Matcher)
    (paths : List String) : List Attempt :=
  paths.filterMap (attempt? top root selector samples)

/-- A file can be read if it is to be a template. -/
def Readable (top : FileTree.Node) (root : String) (selector : Selector) (samples : Matcher)
    (path : String) : Prop :=
  ∀ parser, roleOf selector samples (relativeName root path) = .template parser →
    ∃ bytes, FileTree.bytesAt top path = .ok bytes

/-- The report on attempts before any samples. -/
def reportOf (attempts : List Attempt) : ScanReport :=
  ⟨attempts.filterMap Attempt.template?, attempts.map Attempt.bare⟩

theorem reportOf_add (attempts : List Attempt) (a : Attempt) :
    (reportOf attempts).add a.name a.outcome = reportOf (attempts ++ [a]) := by
  obtain ⟨name, outcome⟩ := a
  cases outcome with
  | error p => simp [reportOf, ScanReport.add, Attempt.template?, Attempt.bare]
  | ok t => simp [reportOf, ScanReport.add, Attempt.template?, Attempt.bare]

/-! ### The run of a scan over a walk -/

variable {top : FileTree.Node} {root : String} {selector : Selector}

/-- One file: the step of the run. -/
theorem takeFile_ok {samples : Matcher} {m : KeyMap String} {done : List Attempt}
    {path : String} {found : Samples × ScanReport}
    (h : takeFile top root selector samples (⟨m, KeyMap.empty⟩, reportOf done) path = .ok found) :
    Readable top root selector samples path ∧
      found = (⟨register root samples m path, KeyMap.empty⟩,
        reportOf (done ++ (attempt? top root selector samples path).toList)) := by
  rw [takeFile] at h
  rw [register, attempt?, Readable]
  by_cases hmatch : samples.isMatch (relativeName root path) = true
  · have hrole : roleOf selector samples (relativeName root path) = .sample := by
      rw [roleOf, if_pos hmatch]
    rw [if_pos hmatch, hrole]
    rw [hrole] at h
    refine ⟨by simp, ?_⟩
    rw [Option.toList_none, List.append_nil]
    exact (Except.ok.inj h).symm
  · rw [if_neg hmatch]
    cases hrole : roleOf selector samples (relativeName root path) with
    | sample =>
      rw [roleOf, if_neg hmatch] at hrole
      split at hrole <;> simp at hrole
    | none =>
      rw [hrole] at h
      refine ⟨by simp, ?_⟩
      rw [Option.toList_none, List.append_nil]
      exact (Except.ok.inj h).symm
    | template parser =>
      rw [hrole] at h
      cases hbytes : FileTree.bytesAt top path with
      | error fault => simp [hbytes] at h
      | ok bytes =>
        simp only [hbytes] at h
        refine ⟨fun _ _ => ⟨bytes, rfl⟩, ?_⟩
        rw [Option.toList_some, ← reportOf_add]
        exact (Except.ok.inj h).symm

/-- All files: what the run has taken so far stays, and a fault of the walk would have ended it. -/
theorem foldlM_take_ok {samples : Matcher} {walk : List (Except FileFault String)}
    {m : KeyMap String} {done : List Attempt} {found : Samples × ScanReport}
    (h : walk.foldlM (take top root selector samples) (⟨m, KeyMap.empty⟩, reportOf done) =
      .ok found) :
    ∃ paths, walk = paths.map .ok ∧ (∀ path ∈ paths, Readable top root selector samples path) ∧
      found = (⟨paths.foldl (register root samples) m, KeyMap.empty⟩,
        reportOf (done ++ attempts top root selector samples paths)) := by
  induction walk generalizing m done with
  | nil =>
    refine ⟨[], rfl, by simp, ?_⟩
    rw [attempts, List.filterMap_nil, List.append_nil]
    exact (Except.ok.inj h).symm
  | cons event walk ih =>
    rw [List.foldlM_cons] at h
    obtain ⟨next, htake, h⟩ := bind_ok h
    cases event with
    | error fault => simp [take] at htake
    | ok path =>
      obtain ⟨hreadable, rfl⟩ := takeFile_ok htake
      obtain ⟨paths, rfl, hall, rfl⟩ := ih h
      refine ⟨path :: paths, rfl, List.forall_mem_cons.mpr ⟨hreadable, hall⟩, ?_⟩
      rw [List.append_assoc, attempts, attempts, List.foldl_cons]
      cases hattempt : attempt? top root selector samples path with
      | none => rw [List.filterMap_cons_none hattempt]; rfl
      | some a => rw [List.filterMap_cons_some hattempt]; rfl

/-- The samples and attempts of a scan whose walk met no fault. -/
theorem sort_ok {samples : Matcher} {walk : List (Except FileFault String)}
    {found : Samples × ScanReport} (h : sort top root selector samples walk = .ok found) :
    ∃ paths, walk = paths.map .ok ∧ (∀ path ∈ paths, Readable top root selector samples path) ∧
      found = (⟨registered root samples paths, KeyMap.empty⟩,
        reportOf (attempts top root selector samples paths)) := by
  have hrun : walk.foldlM (take top root selector samples)
      (⟨KeyMap.empty, KeyMap.empty⟩, reportOf []) = .ok found := h
  exact foldlM_take_ok hrun

/-- A file that can be read is taken, whatever was found before. -/
theorem takeFile_ne_error {samples : Matcher} {path : String}
    (h : Readable top root selector samples path) (found : Samples × ScanReport) (p : Problem) :
    takeFile top root selector samples found path ≠ .error p := by
  intro hrun
  rw [takeFile] at hrun
  split at hrun
  · simp at hrun
  · simp at hrun
  · rename_i parser hrole
    obtain ⟨bytes, hbytes⟩ := h parser hrole
    simp [hbytes] at hrun

/-- A walk without a fault through files that can be read gives samples and attempts. -/
theorem sort_eq {samples : Matcher} {paths : List String}
    (h : ∀ path ∈ paths, Readable top root selector samples path) :
    sort top root selector samples (paths.map .ok) =
      .ok (⟨registered root samples paths, KeyMap.empty⟩,
        reportOf (attempts top root selector samples paths)) := by
  cases hsort : sort top root selector samples (paths.map .ok) with
  | error p =>
    obtain ⟨found, event, hevent, htake⟩ := exists_of_foldlM_error hsort
    obtain ⟨path, hpath, rfl⟩ := List.mem_map.mp hevent
    exact absurd htake (takeFile_ne_error (h path hpath) found p)
  | ok found =>
    obtain ⟨paths', hpaths, -, rfl⟩ := sort_ok hsort
    rw [List.map_injective_iff.mpr (fun _ _ => Except.ok.inj) hpaths]

end Scan

/-- A scan whose walk meets no fault, through files that can be read: it comes to what making each
result by itself does. -/
theorem scan_eq {top : FileTree.Node} {root : String} {selector : Selector} {options : ScanOptions}
    {paths : List String} (hwalk : Walk.files top root options.gitignore = paths.map .ok)
    (hreadable : ∀ path ∈ paths, Scan.Readable top root selector options.samples path) :
    scan top root selector options =
      ((Scan.attempts top root selector options.samples paths).mapM
        (Scan.resultAfresh top options (Scan.registered root options.samples paths))).map
        fun results =>
          ⟨(Scan.attempts top root selector options.samples paths).filterMap Attempt.template?,
            results⟩ := by
  rw [scan, hwalk, Scan.sort_eq hreadable]
  simp only [bind, Except.bind]
  split
  · rename_i hnone
    rw [Scan.mapM_resultAfresh_of_isEmpty hnone]
    rfl
  · obtain ⟨samples, -, hrun⟩ := Scan.withSamples_replays top options
      (Scan.registered root options.samples paths)
      (Scan.attempts top root selector options.samples paths) _
      (Samples.kept_of_loaded_empty top _)
    simp only [Scan.reportOf, hrun]
    cases (Scan.attempts top root selector options.samples paths).mapM
      (Scan.resultAfresh top options (Scan.registered root options.samples paths)) <;> rfl

/-- The report of a scan that succeeds: the templates that compiled, and for each file that was to
be one its result, made with every sample read for it alone. -/
theorem scan_ok {top : FileTree.Node} {root : String} {selector : Selector}
    {options : ScanOptions} {report : ScanReport}
    (h : scan top root selector options = .ok report) :
    ∃ paths, Walk.files top root options.gitignore = paths.map .ok ∧
      (∀ path ∈ paths, Scan.Readable top root selector options.samples path) ∧
      report.templates =
        (Scan.attempts top root selector options.samples paths).filterMap Attempt.template? ∧
      List.Forall₂
        (fun a r => Scan.resultAfresh top options
          (Scan.registered root options.samples paths) a = .ok r)
        (Scan.attempts top root selector options.samples paths) report.results := by
  rw [scan] at h
  obtain ⟨found, hsort, h⟩ := bind_ok h
  obtain ⟨paths, hwalk, hreadable, rfl⟩ := Scan.sort_ok hsort
  refine ⟨paths, hwalk, hreadable, ?_⟩
  simp only at h
  split at h
  · rename_i hnone
    obtain rfl := Except.ok.inj h
    exact ⟨rfl, forall₂_of_mapM (Scan.mapM_resultAfresh_of_isEmpty hnone _)⟩
  · obtain ⟨⟨results, rest⟩, hrun, h⟩ := bind_ok h
    obtain rfl := Except.ok.inj h
    have hafresh := (Scan.withSamples_replays top options
      (Scan.registered root options.samples paths)
      (Scan.attempts top root selector options.samples paths)).eq_ok
      (Samples.kept_of_loaded_empty top _) hrun
    exact ⟨rfl, forall₂_of_mapM hafresh⟩

end TemplateCheck
