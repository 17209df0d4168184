import TemplateCheck.Proofs.Snapshot

/-!
# Samples that are registered again

A sample may be registered under the same name at another path. Registering looks only at paths, and
loading keeps what it found by name, so a load goes on answering what the first one found, wherever
the sample is registered by now. Told here for files that do not change:

* `Samples.Event.keepsFiles` — events that leave the files as they are;
* `Samples.load_answers_latest_iff` — when a load answers what the path registered last holds;
* `Samples.load_misses_latest` — a sample that goes on failing after it was registered at a file
  that holds a model.
-/

namespace TemplateCheck.Samples

open FileTree (Node)

/-- Does an event leave the files as they are? -/
def Event.keepsFiles : Event → Bool
  | .add _ _ => true
  | .load _ => true
  | .write _ _ => false
  | .remove _ => false

variable {top : Node} {past : List Event} {name path : String} {bytes : List UInt8}

theorem filesAfter_of_keepsFiles (h : ∀ e ∈ past, e.keepsFiles) : filesAfter top past = top := by
  induction past using List.reverseRecOn with
  | nil => rfl
  | append_singleton past e ih =>
    have hpast : filesAfter top past = top := ih fun e' he' => h e' (List.mem_append_left _ he')
    have he : e.keepsFiles := h e (List.mem_append_right _ List.mem_cons_self)
    rw [filesAfter_concat, hpast]
    cases e with
    | add _ _ => rfl
    | load _ => rfl
    | write _ _ => cases he
    | remove _ => cases he

/-- Different findings are different answers. -/
theorem answer_inj {found found' : Except Reason Model}
    (h : answer name found = answer name found') :
    found = found' := by
  cases found <;> cases found' <;> simp_all [answer]

/-- Of two loads that read the file of a sample one was the first. -/
theorem FirstRead.unique {path' : String} {bytes' : List UInt8}
    (h : FirstRead top past name path bytes) (h' : FirstRead top past name path' bytes') :
    Sample.decode path bytes = Sample.decode path' bytes' := by
  have hfollows := follows_after top past
  have hfound := (hfollows.found_iff name _).mpr ⟨path, bytes, h, rfl⟩
  have hfound' := (hfollows.found_iff name _).mpr ⟨path', bytes', h', rfl⟩
  exact Option.some.inj (hfound.symm.trans hfound')

/-- Samples are registered, again and again, and loaded, while their files stay as they are. If some
load before could read the file of a sample, a load answers what the first such load read, at the
path registered then. So it answers what the path registered last holds if there was no such load,
or if the path registered then holds the same; and not otherwise. -/
theorem load_answers_latest_iff (hfiles : ∀ e ∈ past, e.keepsFiles)
    (hregistered : Registered past name path) (hbytes : FileTree.bytesAt top path = .ok bytes) :
    ((∃ samples, (Session.after top past).samples.load top name =
          .ok (answer name (Sample.decode path bytes), samples)) ↔
        ∀ path' bytes', FirstRead top past name path' bytes' →
          Sample.decode path' bytes' = Sample.decode path bytes) ∧
      ∀ path' bytes', FirstRead top past name path' bytes' →
        (Session.after top past).samples.load top name =
          .ok (answer name (Sample.decode path' bytes'), (Session.after top past).samples) := by
  obtain ⟨-, -, hkept, hfresh⟩ := load_answers top past name
  rw [filesAfter_of_keepsFiles hfiles] at hfresh
  have hfirst : ∀ path' bytes', FirstRead top past name path' bytes' →
      (Session.after top past).samples.load top name =
        .ok (answer name (Sample.decode path' bytes'), (Session.after top past).samples) := by
    intro path' bytes' hread
    obtain ⟨path₁, bytes₁, hread₁, hload⟩ := hkept (wasRead_iff.mpr ⟨path', bytes', hread⟩)
    rw [hread.unique hread₁]
    exact hload top
  refine ⟨⟨?_, fun hsame => ?_⟩, hfirst⟩
  · rintro ⟨samples, hload⟩ path' bytes' hread
    have hanswer := (hfirst path' bytes' hread).symm.trans hload
    exact answer_inj (Prod.mk.inj (Except.ok.inj hanswer)).1
  · by_cases hread : WasRead top past name
    · obtain ⟨path', bytes', hread'⟩ := wasRead_iff.mp hread
      rw [← hsame path' bytes' hread']
      exact ⟨_, hfirst path' bytes' hread'⟩
    · exact (hfresh path hregistered hread).1 bytes hbytes

/-- A file that holds no model, and one that does. -/
def brokenAndMended : Node :=
  .dir [("broken.json", .file [0x78]), ("mended.json", .file [0x7b, 0x7d])]

/-- A sample that is registered again before it is loaded. -/
def mendedAtOnce : List Event := [.add "a" "/broken.json", .add "a" "/mended.json", .load "b"]

/-- A sample that is loaded, found broken, and registered again. -/
def mendedTooLate : List Event := [.add "a" "/broken.json", .load "a", .add "a" "/mended.json"]

theorem keepsFiles_of_mem_mendedTooLate : ∀ e ∈ mendedTooLate, e.keepsFiles := by
  simp [mendedTooLate, Event.keepsFiles]

theorem registered_mendedTooLate : Registered mendedTooLate "a" "/mended.json" :=
  ⟨show _ = [Event.add "a" "/broken.json", .load "a"] ++ .add "a" "/mended.json" :: [] from rfl,
    by simp⟩

theorem bytesAt_broken : FileTree.bytesAt brokenAndMended "/broken.json" = .ok [0x78] := by
  decide +kernel

theorem bytesAt_mended : FileTree.bytesAt brokenAndMended "/mended.json" = .ok [0x7b, 0x7d] := by
  decide +kernel

/-- Registered again at once, the sample is a model; registered again too late, it stays broken. -/
theorem load_answers_latest_iff_mended :
    ((∀ e ∈ mendedAtOnce, e.keepsFiles) ∧ Registered mendedAtOnce "a" "/mended.json" ∧
      FileTree.bytesAt brokenAndMended "/mended.json" = .ok [0x7b, 0x7d] ∧
      ∃ samples, (Session.after brokenAndMended mendedAtOnce).samples.load brokenAndMended "a" =
        .ok (answer "a" (Sample.decode "/mended.json" [0x7b, 0x7d]), samples)) ∧
    (∀ e ∈ mendedTooLate, e.keepsFiles) ∧ Registered mendedTooLate "a" "/mended.json" ∧
      FirstRead brokenAndMended mendedTooLate "a" "/broken.json" [0x78] ∧
      (Session.after brokenAndMended mendedTooLate).samples.load brokenAndMended "a" =
        .ok (answer "a" (Sample.decode "/broken.json" [0x78]),
          (Session.after brokenAndMended mendedTooLate).samples) := by
  have hfiles : ∀ e ∈ mendedAtOnce, e.keepsFiles := by simp [mendedAtOnce, Event.keepsFiles]
  have hregistered : Registered mendedAtOnce "a" "/mended.json" :=
    ⟨show _ = [Event.add "a" "/broken.json"] ++ .add "a" "/mended.json" :: [.load "b"] from rfl,
      by simp⟩
  have hnone : ∀ path bytes, ¬ FirstRead brokenAndMended mendedAtOnce "a" path bytes := by
    rintro path bytes ⟨loaded, -, -⟩
    have hload : Event.load "a" ∈ mendedAtOnce :=
      loaded ▸ List.mem_append_right _ List.mem_cons_self
    simp [mendedAtOnce] at hload
  have hfirst : FirstRead brokenAndMended mendedTooLate "a" "/broken.json" [0x78] := by
    refine ⟨show _ = [Event.add "a" "/broken.json"] ++ .load "a" :: [.add "a" "/mended.json"] from
      rfl, ⟨⟨show _ = [] ++ Event.add "a" "/broken.json" :: [] from rfl, by simp⟩,
        bytesAt_broken⟩, ?_⟩
    rintro ⟨loaded, -⟩
    have hload : Event.load "a" ∈ [Event.add "a" "/broken.json"] :=
      loaded ▸ List.mem_append_right _ List.mem_cons_self
    simp at hload
  refine ⟨⟨hfiles, hregistered, bytesAt_mended, ?_⟩, keepsFiles_of_mem_mendedTooLate,
    registered_mendedTooLate, hfirst, ?_⟩
  · exact (load_answers_latest_iff hfiles hregistered bytesAt_mended).1.mpr fun path bytes hread =>
      absurd hread (hnone path bytes)
  · exact (load_answers_latest_iff keepsFiles_of_mem_mendedTooLate registered_mendedTooLate
      bytesAt_mended).2 _ _ hfirst

/-- A load does not always answer what the path registered last holds, although no file changes and
all can be read. -/
theorem load_misses_latest :
    (∀ e ∈ mendedTooLate, e.keepsFiles) ∧
      (∀ path, .add "a" path ∈ mendedTooLate →
        ∃ bytes, FileTree.bytesAt brokenAndMended path = .ok bytes) ∧
      Registered mendedTooLate "a" "/mended.json" ∧
      FileTree.bytesAt brokenAndMended "/mended.json" = .ok [0x7b, 0x7d] ∧
      ¬ ∃ samples, (Session.after brokenAndMended mendedTooLate).samples.load brokenAndMended "a" =
        .ok (answer "a" (Sample.decode "/mended.json" [0x7b, 0x7d]), samples) := by
  refine ⟨keepsFiles_of_mem_mendedTooLate, fun path hpath => ?_, registered_mendedTooLate,
    bytesAt_mended, ?_⟩
  · simp only [mendedTooLate, List.mem_cons, Event.add.injEq, true_and, reduceCtorEq, false_or,
      List.not_mem_nil, or_false] at hpath
    rcases hpath with rfl | rfl
    · exact ⟨_, bytesAt_broken⟩
    · exact ⟨_, bytesAt_mended⟩
  · rintro ⟨samples, hload⟩
    have hstale : ∃ problem samples,
        (Session.after brokenAndMended mendedTooLate).samples.load brokenAndMended "a" =
          .ok (.error problem, samples) := by
      cbv
      exact ⟨_, _, rfl⟩
    have hdecode : ∃ model, Sample.decode "/mended.json" [0x7b, 0x7d] = .ok model := by
      cbv
      exact ⟨_, rfl⟩
    obtain ⟨problem, stale, hstale⟩ := hstale
    obtain ⟨model, hdecode⟩ := hdecode
    rw [hdecode, hstale] at hload
    cases hload

end TemplateCheck.Samples
