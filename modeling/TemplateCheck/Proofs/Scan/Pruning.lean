import TemplateCheck.Proofs.Scan.Names

/-!
# Ignore files only leave out

A scan that minds ignore files is compared with one that does not. It visits fewer files, so that
there are fewer templates and fewer samples; but what it says about those that stay is the same, as
long as no two files have one name. Only a malformed line in an ignore file above the root keeps it
from succeeding where the other one does: such a line is a fault of the walk, while one at the root
or below it is passed over.

* `Scan.Pruned` — a result of which only samples are left out;
* `Scan.Restricts` — samples some of which are left out;
* `Scan.resultAfresh_prunes` — with these, a result has fewer samples, and is otherwise the same;
* `scan_error_of_faultAbove` — a malformed line above the root ends a scan with ignore files;
* `scan_prunes` — a scan with ignore files succeeds where the other one does, unless there is such a
  line, and then has fewer results.
-/

namespace TemplateCheck

namespace Scan

open TemplateCheck.Path (relativeName)

/-- A result of another one's file of which only samples are left out. -/
structure Pruned (pruned r : TemplateResult) : Prop where
  name : pruned.name = r.name
  problem : pruned.problem = r.problem
  samples : pruned.samples.Sublist r.samples
  /-- It does not fail unless the other one does. -/
  isOk : r.isOk = true → pruned.isOk = true

/-- Registered samples of which some are left out. -/
def Restricts (paths' paths : KeyMap String) : Prop :=
  ∀ name path, paths'.get? name = some path → paths.get? name = some path

variable {top : FileTree.Node} {root : String} {options : ScanOptions}

/-- Where names are distinct, a sample that stays among fewer files is registered as among all. -/
theorem restricts_registered {samples : Matcher} {paths paths' : List String}
    (hsub : paths'.Sublist paths)
    (hdistinct : ∀ p ∈ paths, ∀ q ∈ paths, relativeName root p = relativeName root q → p = q) :
    Restricts (registered root samples paths') (registered root samples paths) := by
  intro name path h
  obtain ⟨visited, rfl, matched, -⟩ := registeredAt_iff.mpr h
  have hpath : path ∈ paths := by
    refine hsub.subset ?_
    rw [visited]
    exact List.mem_append_right _ List.mem_cons_self
  exact get?_registered_of_distinct hdistinct hpath matched

/-- The samples for a template that stay keep their order. -/
theorem Restricts.matching_sublist {paths' paths : KeyMap String} (h : Restricts paths' paths)
    (template : String) : (matching paths' template).Sublist (matching paths template) := by
  have hkeys : paths'.keys ⊆ paths.keys := by
    intro name hname
    rw [KeyMap.mem_keys_iff, Option.isSome_iff_exists] at hname ⊢
    exact hname.imp (h name)
  exact (KeyMap.keys_sublist hkeys).filter _

theorem Restricts.checkAfresh_eq {paths' paths : KeyMap String} (h : Restricts paths' paths)
    {t : Template} {name : String} (hname : name ∈ matching paths' t.name) :
    checkAfresh top options paths' t name = checkAfresh top options paths t name := by
  obtain ⟨⟨path, hpath⟩, -⟩ := (mem_matching_iff _ _ _).mp hname
  rw [checkAfresh, checkAfresh, Samples.readAfresh, Samples.readAfresh, hpath, h name path hpath]

/-- With fewer samples, a result is made all the same and says less about samples. -/
theorem resultAfresh_prunes {paths' paths : KeyMap String} (h : Restricts paths' paths)
    {a : Attempt} {r : TemplateResult} (hr : resultAfresh top options paths a = .ok r) :
    ∃ r', resultAfresh top options paths' a = .ok r' ∧ Pruned r' r := by
  obtain ⟨name, outcome⟩ := a
  cases outcome with
  | error p =>
    obtain rfl := Except.ok.inj hr
    exact ⟨_, rfl, rfl, rfl, List.Sublist.refl _, id⟩
  | ok t =>
    obtain ⟨samples, hsamples, hr⟩ := bind_ok hr
    obtain rfl := Except.ok.inj hr
    obtain ⟨samples', hsamples', hsub⟩ := exists_mapM_of_sublist (R := Eq)
      (g := checkAfresh top options paths' t) (h.matching_sublist t.name)
      (forall₂_of_mapM hsamples) fun n hn s hs => ⟨s, (h.checkAfresh_eq hn).trans hs, rfl⟩
    have hsublist : samples'.Sublist samples := by
      obtain ⟨same, hsame, hsub⟩ := List.sublistForall₂_iff.mp hsub
      rw [List.forall₂_eq_eq_eq] at hsame
      exact hsame ▸ hsub
    refine ⟨⟨name, none, samples'⟩, ?_, rfl, rfl, hsublist, fun hok => ?_⟩
    · rw [resultAfresh]
      simp only [hsamples']
      rfl
    · simp only [TemplateResult.isOk, Bool.and_eq_true, List.all_eq_true] at hok ⊢
      exact ⟨hok.1, fun s hs => hok.2 s (hsublist.subset hs)⟩

end Scan

section Outcome

open Scan

variable {top : FileTree.Node} {root : String} {selector : Selector} {options : ScanOptions}
  {report : ScanReport}

/-- A malformed line above the root ends a scan that minds ignore files, as a fault of the walk. -/
theorem scan_error_of_faultAbove (hfault : Walk.FaultAbove top root) :
    scan top root selector { options with gitignore := true } = .error (.walk root .walk) := by
  obtain ⟨fault, later, hwalk⟩ := Walk.files_of_faultAbove hfault
  show (Scan.sort top root selector options.samples (Walk.files top root true) >>= _) = _
  rw [hwalk]
  rfl

/-- Without such a line, a scan that minds ignore files succeeds if one that does not succeeds. -/
theorem exists_pruned_report (hfault : ¬ Walk.FaultAbove top root)
    (hdistinct : ∀ p q, Walk.Visits top root false p → Walk.Visits top root false q →
      Path.relativeName root p = Path.relativeName root q → p = q)
    (h : scan top root selector { options with gitignore := false } = .ok report) :
    ∃ pruned, scan top root selector { options with gitignore := true } = .ok pruned ∧
      List.SublistForall₂ Pruned pruned.results report.results ∧
      pruned.templates.Sublist report.templates := by
  obtain ⟨paths, hwalk, hreadable, htemplates, hresults⟩ := scan_ok h
  obtain ⟨paths', hsub, hwalk'⟩ : ∃ paths' : List String, paths'.Sublist paths ∧
      Walk.files top root true = paths'.map .ok := by
    have hless := Walk.files_sublist_plain hfault
    rw [hwalk] at hless
    exact List.sublist_map_iff.mp hless
  have hrestricts : Restricts (registered root options.samples paths')
      (registered root options.samples paths) :=
    restricts_registered hsub fun p hp q hq => hdistinct p q
      ((Walk.visits_iff hwalk p).mpr hp) ((Walk.visits_iff hwalk q).mpr hq)
  have hattempts : (attempts top root selector options.samples paths').Sublist
      (attempts top root selector options.samples paths) := hsub.filterMap _
  obtain ⟨results, hrun, hpruned⟩ := exists_mapM_of_sublist (R := Pruned) hattempts hresults
    fun a _ r hr => resultAfresh_prunes hrestricts hr
  refine ⟨⟨(attempts top root selector options.samples paths').filterMap Attempt.template?,
    results⟩, ?_, hpruned, ?_⟩
  · exact Eq.trans (scan_eq hwalk' fun path hpath => hreadable path (hsub.subset hpath))
      (congrArg (Except.map _) hrun)
  · rw [htemplates]
    exact hattempts.filterMap _

end Outcome

namespace Scan

/-- A directory in which a template, a sample and a directory are ignored, while another template
with a sample, and one that does not compile, are not. What the directory above it names is not
ignored. -/
def ignoringTree : FileTree.Node :=
  .dir [
    (".gitignore", .file (Text.Utf8.encode "a.tmpl\n")),
    ("in", .dir [
      (".gitignore", .file (Text.Utf8.encode "b.tmpl\n*.x.json\nsub/\n")),
      ("a.json", .file [0x7b, 0x7d]),
      ("a.tmpl", .file [0x61]),
      ("a.x.json", .file [0x78]),
      ("b.tmpl", .file [0x62]),
      ("c.tmpl", .file [0x7b, 0x7b, 0x20, 0x78]),
      ("sub", .dir [("d.tmpl", .file [0x64])])])]

end Scan

namespace Scan

/-- A directory with a template, below one whose ignore file has a malformed line. -/
def malformedAboveTree : FileTree.Node :=
  .dir [
    (".gitignore", .file (Text.Utf8.encode "[z-a]")),
    ("in", .dir [("a.tmpl", .file [0x78])])]

end Scan

end TemplateCheck
