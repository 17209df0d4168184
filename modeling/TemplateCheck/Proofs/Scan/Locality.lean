import TemplateCheck.Proofs.Scan.Formats
import TemplateCheck.Proofs.Scan.Names

/-!
# Results depend on their own directory

What a scan says about the files of one directory is compared between two scans, of any two trees,
from any two roots. Where the files of that directory have the same names and bytes, it is the same
just if the samples listed there have the same formats; whatever else the trees hold does not
matter.

* `Scan.directoryOf` — the directory part of a relative name;
* `Scan.Sighting` — what a result may depend on: the names and bytes of files;
* `Scan.SameFormat` — the files registered under one sample name have the same format;
* `scan_local` — when the results in a directory agree.

The format of a sample is read off its path and not off its name. Names without backslashes say what
the path does, so for them the formats need no mention. All file names are UTF-8 here.
-/

namespace TemplateCheck

namespace Scan

open TemplateCheck.Path (relativeName)

/-! ### What a result may depend on -/

/-- The directory part of a relative name. -/
def directoryOf (name : String) : String :=
  (Sample.splitName name).1

/-- A file as a scan shows it: its relative name and its bytes. -/
abbrev Sighting := String × List UInt8

/-- A file below a root as a scan shows it. -/
def sighting (root : String) (f : Found) : Sighting :=
  (relativeName root (Path.descend root f.1), f.2)

/-- The files of a directory, in the order of a walk. -/
def sightingsIn (root directory : String) (files : List Found) : List Sighting :=
  (files.map (sighting root)).filter fun s => directoryOf s.1 == directory

/-- What a report says about the files of a directory. -/
def resultsIn (directory : String) (report : ScanReport) : List TemplateResult :=
  report.results.filter fun r => directoryOf r.name == directory

/-- The samples among files below a root. -/
def samplesOf (root : String) (samples : Matcher) (files : List Found) : KeyMap String :=
  registered root samples (files.map fun f => Path.descend root f.1)

/-- The files that count for a sample in two scans have the same format, if they are texts. -/
def SameFormat (samples : Matcher) (root₁ root₂ : String) (files₁ files₂ : List Found)
    (name : String) : Prop :=
  ∀ f₁ ∈ files₁, ∀ f₂ ∈ files₂,
    (samplesOf root₁ samples files₁).get? name = some (Path.descend root₁ f₁.1) →
    (samplesOf root₂ samples files₂).get? name = some (Path.descend root₂ f₂.1) →
    (∃ text, f₁.2 = Text.Utf8.encode text) →
    Sample.formatName (Path.descend root₁ f₁.1) = Sample.formatName (Path.descend root₂ f₂.1)

/-! ### Attempts -/

/-- What becomes of a file that is shown. -/
def attemptOn? (selector : Selector) (samples : Matcher) (s : Sighting) : Option Attempt :=
  match roleOf selector samples s.1 with
  | .template parser => some ⟨s.1, compile parser s.1 s.2⟩
  | _ => none

theorem attemptOn?_name {selector : Selector} {samples : Matcher} {s : Sighting} {a : Attempt}
    (h : attemptOn? selector samples s = some a) :
    a.name = s.1 ∧ ∀ t, a.outcome = .ok t → t.name = a.name := by
  rw [attemptOn?] at h
  split at h
  · obtain rfl := Option.some.inj h
    refine ⟨rfl, fun t ht => ?_⟩
    obtain ⟨source, -, hparsed⟩ := compile_eq_ok_iff.mp ht
    exact parse_name hparsed
  · simp at h

/-- In a scan that succeeds, the attempts depend on what is shown of the files. -/
theorem attempts_eq {top : FileTree.Node} {root : String} {selector : Selector}
    {samples : Matcher} {files : List Found}
    (hread : ∀ f ∈ files, ∀ bytes,
      FileTree.bytesAt top (Path.descend root f.1) = .ok bytes → bytes = f.2)
    (hreadable : ∀ f ∈ files, Readable top root selector samples (Path.descend root f.1)) :
    attempts top root selector samples (files.map fun f => Path.descend root f.1) =
      (files.map (sighting root)).filterMap (attemptOn? selector samples) := by
  rw [attempts, List.filterMap_map, List.filterMap_map]
  refine List.filterMap_congr fun f hf => ?_
  show attempt? top root selector samples (Path.descend root f.1) =
    attemptOn? selector samples (sighting root f)
  rw [attempt?, attemptOn?, sighting]
  cases hrole : roleOf selector samples (relativeName root (Path.descend root f.1)) with
  | sample => rfl
  | none => rfl
  | template parser =>
    obtain ⟨bytes, hbytes⟩ := hreadable f hf parser hrole
    rw [hbytes, hread f hf bytes hbytes]

/-- The attempts in a directory are those on the files shown in it. -/
theorem filter_attempts (selector : Selector) (samples : Matcher) (directory : String)
    (sightings : List Sighting) :
    (sightings.filterMap (attemptOn? selector samples)).filter
        (fun a => directoryOf a.name == directory) =
      (sightings.filter fun s => directoryOf s.1 == directory).filterMap
        (attemptOn? selector samples) := by
  rw [List.filter_filterMap, List.filterMap_filter]
  refine List.filterMap_congr fun s _ => ?_
  cases h : attemptOn? selector samples s with
  | none => simp
  | some a =>
    rw [← (attemptOn?_name h).1]
    by_cases hdirectory : directoryOf a.name = directory <;> simp [hdirectory]

/-! ### Samples -/

theorem belongsTo_directory {template sample : String}
    (h : Sample.belongsTo template sample = true) :
    directoryOf sample = directoryOf template ∧ sample ≠ "" := by
  simp only [Sample.belongsTo, Bool.and_eq_true, Bool.or_eq_true, beq_iff_eq, bne_iff_ne] at h
  obtain ⟨⟨hdirectory, hfile⟩, hprefix⟩ := h
  refine ⟨hdirectory.symm, ?_⟩
  rintro rfl
  have hempty : ∀ s : String, s ≠ "" → s.toList.isPrefixOf (Sample.splitName "").2.toList = false :=
    fun s hs => by
      cases hs' : s.toList with
      | nil => exact absurd (String.toList_inj.mp hs') hs
      | cons c cs => rfl
  rcases hprefix with hprefix | ⟨hstem, hprefix⟩
  · rw [hempty _ hfile] at hprefix
    simp at hprefix
  · rw [hempty _ hstem] at hprefix
    simp at hprefix

variable {root : String} {samples : Matcher} {files : List Found} {name : String}

/-- The bytes shown last under a name are those of the last file with that name. -/
theorem lookup_sightingsIn :
    (sightingsIn root (directoryOf name) files).reverse.lookup name =
      (files.reverse.find? fun f => relativeName root (Path.descend root f.1) == name).map
        (·.2) := by
  rw [sightingsIn, ← List.filter_reverse, ← List.map_reverse,
    lookup_filter fun other => directoryOf other == directoryOf name,
    if_pos (beq_self_eq_true _)]
  exact lookup_map _ _ _ name

theorem get?_samplesOf : (samplesOf root samples files).get? name =
    if samples.isMatch name then
      (files.reverse.find? fun f => relativeName root (Path.descend root f.1) == name).map
        fun f => Path.descend root f.1
    else none := by
  rw [samplesOf, get?_registered, ← List.map_reverse, List.find?_map]
  rfl

/-- The file that counts for a sample name has the bytes shown last under that name. -/
theorem get?_samplesOf_eq_some {path : String}
    (h : (samplesOf root samples files).get? name = some path) :
    ∃ f ∈ files, path = Path.descend root f.1 ∧ relativeName root path = name ∧
      (sightingsIn root (directoryOf name) files).reverse.lookup name = some f.2 := by
  rw [get?_samplesOf] at h
  split at h
  · obtain ⟨f, hf, rfl⟩ := Option.map_eq_some_iff.mp h
    refine ⟨f, List.mem_reverse.mp (List.mem_of_find?_eq_some hf), rfl,
      by simpa using List.find?_some hf, ?_⟩
    rw [lookup_sightingsIn, hf, Option.map_some]
  · simp at h

/-- Whether a sample is registered under a name is shown in its directory. -/
theorem isSome_get?_samplesOf : ((samplesOf root samples files).get? name).isSome =
    (samples.isMatch name &&
      ((sightingsIn root (directoryOf name) files).reverse.lookup name).isSome) := by
  rw [get?_samplesOf, lookup_sightingsIn]
  cases samples.isMatch name <;> simp

/-! ### The results in a directory -/

/-- The result of an attempt in a scan that goes through some files. -/
def ResultOf (top : FileTree.Node) (root : String) (options : ScanOptions) (files : List Found)
    (a : Attempt) (r : TemplateResult) : Prop :=
  resultAfresh top options (samplesOf root options.samples files) a = .ok r

/-- The results in a directory are those of the attempts on the files shown in it. -/
theorem forall₂_resultOf {top : FileTree.Node} (hwf : top.WellFormed) {root : String}
    {selector : Selector} {options : ScanOptions} (hall : options.gitignore = false)
    {report : ScanReport} (h : scan top root selector options = .ok report) {files : List Found}
    (hfiles : Inventory top root files) (directory : String) :
    List.Forall₂ (ResultOf top root options files)
      ((sightingsIn root directory files).filterMap (attemptOn? selector options.samples))
      (resultsIn directory report) := by
  obtain ⟨paths, hwalk, hreadable, -, hresults⟩ := scan_ok h
  rw [hall] at hwalk
  obtain rfl := hfiles.paths_eq hwf hwalk
  have hattempts := attempts_eq (fun f hf bytes => hfiles.bytes_eq hwf hf)
    fun f hf => hreadable _ (List.mem_map_of_mem hf)
  rw [hattempts] at hresults
  rw [sightingsIn, ← filter_attempts]
  refine List.rel_filter (fun a r har => ?_) hresults
  show (directoryOf a.name == directory) = true ↔ (directoryOf r.name == directory) = true
  rw [(resultAfresh_name har).1]

theorem belongsTo_of_mem_results {top : FileTree.Node} {root : String} {selector : Selector}
    {options : ScanOptions} {report : ScanReport}
    (h : scan top root selector options = .ok report) :
    ∀ r ∈ report.results, ∀ s ∈ r.samples, Sample.belongsTo r.name s.name = true := by
  intro r hr
  obtain ⟨paths, -, hchecked⟩ := exists_checked h
  obtain ⟨path, -, hcheck⟩ := hchecked r hr
  exact hcheck.belongsTo

section TwoScans

variable {top₁ top₂ : FileTree.Node} {root₁ root₂ : String} {selector : Selector}
  {options : ScanOptions} {files₁ files₂ : List Found} {directory : String}

/-- The names of the samples for a template are shown in its directory. -/
theorem matching_eq
    (hsame : sightingsIn root₁ directory files₁ = sightingsIn root₂ directory files₂)
    {template : String} (hdirectory : directoryOf template = directory) :
    matching (samplesOf root₁ options.samples files₁) template =
      matching (samplesOf root₂ options.samples files₂) template := by
  have : Std.Irrefl fun a b : String => a < b := ⟨String.lt_irrefl⟩
  have : Std.Asymm fun a b : String => a < b := ⟨fun _ _ => String.lt_asymm⟩
  refine List.Pairwise.eq_of_mem_iff (pairwise_matching _ _) (pairwise_matching _ _)
    fun name => ?_
  rw [mem_matching_iff, mem_matching_iff, ← Option.isSome_iff_exists, ← Option.isSome_iff_exists]
  refine and_congr_left fun hbelongs => ?_
  have hname : directoryOf name = directory := (belongsTo_directory hbelongs).1.trans hdirectory
  rw [isSome_get?_samplesOf, isSome_get?_samplesOf, hname, hsame]

/-- A sample for a template gives the same in both scans just if it has the same format. -/
theorem checkAfresh_eq_iff (hwf₁ : top₁.WellFormed) (hwf₂ : top₂.WellFormed)
    (hfiles₁ : Inventory top₁ root₁ files₁) (hfiles₂ : Inventory top₂ root₂ files₂)
    (hsame : sightingsIn root₁ directory files₁ = sightingsIn root₂ directory files₂)
    {t : Template} (hdirectory : directoryOf t.name = directory) {name : String}
    (hname : name ∈ matching (samplesOf root₁ options.samples files₁) t.name)
    {s₁ s₂ : SampleResult}
    (h₁ : checkAfresh top₁ options (samplesOf root₁ options.samples files₁) t name = .ok s₁)
    (h₂ : checkAfresh top₂ options (samplesOf root₂ options.samples files₂) t name = .ok s₂) :
    s₁ = s₂ ↔ SameFormat options.samples root₁ root₂ files₁ files₂ s₁.name := by
  have hname₂ : name ∈ matching (samplesOf root₂ options.samples files₂) t.name :=
    matching_eq hsame hdirectory ▸ hname
  rw [mem_matching_iff] at hname hname₂
  obtain ⟨⟨path₁, hpath₁⟩, hbelongs⟩ := hname
  obtain ⟨⟨path₂, hpath₂⟩, -⟩ := hname₂
  obtain ⟨hsub, hne⟩ := belongsTo_directory hbelongs
  have hin : directoryOf name = directory := hsub.trans hdirectory
  obtain ⟨bytes₁, hbytes₁, rfl⟩ := checkAfresh_ok hpath₁ h₁
  obtain ⟨bytes₂, hbytes₂, rfl⟩ := checkAfresh_ok hpath₂ h₂
  obtain ⟨f₁, hf₁, rfl, hnamed₁, hlast₁⟩ := get?_samplesOf_eq_some hpath₁
  obtain ⟨f₂, hf₂, rfl, hnamed₂, hlast₂⟩ := get?_samplesOf_eq_some hpath₂
  obtain rfl := hfiles₁.bytes_eq hwf₁ hf₁ hbytes₁
  obtain rfl := hfiles₂.bytes_eq hwf₂ hf₂ hbytes₂
  have hbytes : f₁.2 = f₂.2 := by
    rw [hin, hsame, ← hin, hlast₂] at hlast₁
    exact (Option.some.inj hlast₁).symm
  have hformats := Path.formatName_of_relativeName_eq (hfiles₁.root_ne_empty hf₁)
    (hfiles₂.root_ne_empty hf₂) (hfiles₁.isFileName hwf₁ hf₁) (hfiles₂.isFileName hwf₂ hf₂)
    (hfiles₁.names_ne_nil hwf₁ hf₁ (hnamed₁.trans_ne hne)) (hnamed₁.trans hnamed₂.symm)
  rw [SampleResult.mk.injEq, ← hbytes]
  simp only [true_and]
  rw [verdict_decode_eq_iff hformats]
  constructor
  · intro h g₁ hg₁ g₂ hg₂ hget₁ hget₂ htext
    rw [hpath₁] at hget₁
    rw [hpath₂] at hget₂
    rw [← Option.some.inj hget₁, ← Option.some.inj hget₂]
    refine h ?_
    have hsamebytes := hfiles₁.bytes_eq hwf₁ hg₁ (Option.some.inj hget₁ ▸ hbytes₁)
    exact hsamebytes ▸ htext
  · intro h htext
    exact h f₁ hf₁ f₂ hf₂ hpath₁ hpath₂ htext

/-- An attempt in the directory has the same result in both scans just if the samples that this
lists have the same formats. -/
theorem resultOf_eq_iff (hwf₁ : top₁.WellFormed) (hwf₂ : top₂.WellFormed)
    (hfiles₁ : Inventory top₁ root₁ files₁) (hfiles₂ : Inventory top₂ root₂ files₂)
    (hsame : sightingsIn root₁ directory files₁ = sightingsIn root₂ directory files₂) {a : Attempt}
    (ha : a ∈ (sightingsIn root₁ directory files₁).filterMap
      (attemptOn? selector options.samples)) {r₁ r₂ : TemplateResult}
    (h₁ : ResultOf top₁ root₁ options files₁ a r₁)
    (h₂ : ResultOf top₂ root₂ options files₂ a r₂) :
    r₁ = r₂ ↔
      ∀ s ∈ r₁.samples, SameFormat options.samples root₁ root₂ files₁ files₂ s.name := by
  obtain ⟨s, hs, ha⟩ := List.mem_filterMap.mp ha
  obtain ⟨hname, houtcome⟩ := attemptOn?_name ha
  have hdirectory : directoryOf a.name = directory := by
    rw [hname]
    simpa using (List.mem_filter.mp hs).2
  obtain ⟨name, outcome⟩ := a
  cases outcome with
  | error p =>
    obtain rfl := Except.ok.inj h₁
    obtain rfl := Except.ok.inj h₂
    simp
  | ok t =>
    have ht : directoryOf t.name = directory := by rw [houtcome t rfl, hdirectory]
    obtain ⟨samples₁, hsamples₁, h₁⟩ := bind_ok h₁
    obtain ⟨samples₂, hsamples₂, h₂⟩ := bind_ok h₂
    obtain rfl := Except.ok.inj h₁
    obtain rfl := Except.ok.inj h₂
    rw [← matching_eq hsame ht] at hsamples₂
    rw [TemplateResult.mk.injEq]
    simp only [true_and]
    exact forall₂_eq_iff (forall₂_of_mapM hsamples₁) (forall₂_of_mapM hsamples₂)
      fun name hname s₁ s₂ =>
        checkAfresh_eq_iff hwf₁ hwf₂ hfiles₁ hfiles₂ hsame ht hname

/-! ### Formats and names -/

/-- No file shown in a directory has a name with a backslash on its way from the root. -/
def PlainIn (root directory : String) (files : List Found) : Prop :=
  ∀ f ∈ files, directoryOf (relativeName root (Path.descend root f.1)) = directory →
    ∀ n ∈ f.1, '\\' ∉ n.toList

/-- Without backslashes a name says what the path does. -/
theorem sameFormat_of_plainIn {samples : Matcher} (hwf₁ : top₁.WellFormed)
    (hwf₂ : top₂.WellFormed) (hfiles₁ : Inventory top₁ root₁ files₁)
    (hfiles₂ : Inventory top₂ root₂ files₂) (hplain₁ : PlainIn root₁ directory files₁)
    (hplain₂ : PlainIn root₂ directory files₂) {name : String} (hin : directoryOf name = directory)
    (hne : name ≠ "") : SameFormat samples root₁ root₂ files₁ files₂ name := by
  intro f₁ hf₁ f₂ hf₂ hget₁ hget₂ _
  obtain ⟨-, -, -, hname₁, -⟩ := get?_samplesOf_eq_some hget₁
  obtain ⟨-, -, -, hname₂, -⟩ := get?_samplesOf_eq_some hget₂
  have hplainf₁ := hplain₁ f₁ hf₁ (hname₁ ▸ hin)
  have hplainf₂ := hplain₂ f₂ hf₂ (hname₂ ▸ hin)
  have hnames₁ := hfiles₁.isFileName hwf₁ hf₁
  have hnames₂ := hfiles₂.isFileName hwf₂ hf₂
  have hroot₁ := hfiles₁.root_ne_empty hf₁
  have hroot₂ := hfiles₂.root_ne_empty hf₂
  have hnil := hfiles₁.names_ne_nil hwf₁ hf₁ (hname₁.trans_ne hne)
  rw [Path.relativeName_of_plain hroot₁ hnames₁ hplainf₁] at hname₁
  rw [Path.relativeName_of_plain hroot₂ hnames₂ hplainf₂] at hname₂
  have hnormal₁ := Path.isNormal_of_isFileName hnames₁
  have hnormal₂ := Path.isNormal_of_isFileName hnames₂
  have hsame : f₁.1 = f₂.1 := Path.ofSegments_inj hnormal₁ hnormal₂ (hname₁.trans hname₂.symm)
  refine Path.formatName_congr ?_
  rw [Path.fileName?_descend hroot₁ hnormal₁ hnil, hsame,
    Path.fileName?_descend hroot₂ hnormal₂ (hsame ▸ hnil)]

end TwoScans

end Scan

namespace Scan

/-- The directory `a` of the mixed tree again, under another root and among other files. -/
def otherTree : FileTree.Node :=
  .dir [("else", .dir [("deep", .dir [
    ("a", .dir [("b.tmpl", .file [0x62]), ("b.tmpl.json", .file [0x7b, 0x7d])]),
    ("b.tmpl.json", .file [0x78]),
    ("x.tmpl", .file [0x7b, 0x7b])])])]

end Scan

namespace Scan

/-- A template and a sample whose name is nothing but an extension, in a directory. -/
def dottedTree : FileTree.Node :=
  .dir [("in", .dir [("a", .dir [
    (".json", .file [0x7b, 0x7d]),
    (".json.tmpl", .file [0x62])])])]

/-- The same relative names and bytes, with backslashes in the place of the directory. -/
def flatTree : FileTree.Node :=
  .dir [("in", .dir [
    ("a\\.json", .file [0x7b, 0x7d]),
    ("a\\.json.tmpl", .file [0x62])])]

end Scan

end TemplateCheck
