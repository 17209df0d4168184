import TemplateCheck.Samples
import TemplateCheck.Proofs.KeyMap
import Mathlib.Data.List.Induction

/-!
# What a sample is stays what it was first read as

Samples are registered and loaded while their files are written and removed. What a load answers is
told from what happened before it, without any samples being kept.

* `Samples.Event`, `Samples.Session` — what can happen, and what there is then;
* `Samples.Registered` — the path a name stands for;
* `Samples.WasRead`, `Samples.FirstRead` — some load of a name could read its file, and the first
  one read these bytes;
* `Samples.Follows` — what is kept follows from what happened, one event after the other;
* `Samples.load_answers` — what a load answers after any events.
-/

namespace TemplateCheck.Samples

open FileTree (Node)

/-! ### Events -/

/-- What happens to samples and files. -/
inductive Event where
  | add (name path : String)
  | load (name : String)
  | write (path : String) (node : Node)
  | remove (path : String)

/-- The files after an event. -/
def Event.change (files : Node) : Event → Node
  | .add _ _ => files
  | .load _ => files
  | .write path node => FileTree.write files path node
  | .remove path => FileTree.remove files path

/-- Samples, and the files they are read from. -/
structure Session where
  files : Node
  samples : Samples

/-- The samples after an event. A load that fails leaves them as they are. -/
def Session.touched (s : Session) : Event → Samples
  | .add name path => s.samples.add name path
  | .load name =>
    match s.samples.load s.files name with
    | .ok (_, samples) => samples
    | .error _ => s.samples
  | .write _ _ => s.samples
  | .remove _ => s.samples

/-- One event. -/
def Session.step (s : Session) (e : Event) : Session :=
  ⟨e.change s.files, s.touched e⟩

/-- All events from the beginning, when no sample is registered and the files are `top`. -/
def Session.after (top : Node) (past : List Event) : Session :=
  past.foldl Session.step ⟨top, Samples.empty⟩

/-! ### What happened -/

/-- The files after events. -/
def filesAfter (top : Node) (past : List Event) : Node :=
  past.foldl Event.change top

/-- The sample `name` is registered at `path`, and was not registered again. -/
inductive Registered (past : List Event) (name path : String) : Prop
  | intro {before after : List Event} (added : past = before ++ .add name path :: after)
      (last : ∀ other, .add name other ∉ after)

/-- A load of the sample `name` reads these bytes from the file at `path`. -/
structure Reads (top : Node) (past : List Event) (name path : String) (bytes : List UInt8) :
    Prop where
  registered : Registered past name path
  read : FileTree.bytesAt (filesAfter top past) path = .ok bytes

/-- Some load of the sample `name` could read its file. -/
inductive WasRead (top : Node) (past : List Event) (name : String) : Prop
  | intro {before after : List Event} {path : String} {bytes : List UInt8}
      (loaded : past = before ++ .load name :: after) (reads : Reads top before name path bytes)

/-- The first load of the sample `name` that could read its file read these bytes at `path`. -/
inductive FirstRead (top : Node) (past : List Event) (name path : String) (bytes : List UInt8) :
    Prop
  | intro {before after : List Event} (loaded : past = before ++ .load name :: after)
      (reads : Reads top before name path bytes) (first : ¬ WasRead top before name)

/-! ### One more event -/

variable {top : Node} {past : List Event} {name path : String} {bytes : List UInt8} {e : Event}

/-- A place in a list with one more member is that member or a place in the list. -/
theorem concat_eq_append_cons_iff {α : Type} {as before after : List α} {a x : α} :
    as ++ [a] = before ++ x :: after ↔
      (as = before ∧ a = x ∧ after = []) ∨
        ∃ rest, as = before ++ x :: rest ∧ after = rest ++ [a] := by
  constructor
  · intro h
    rcases List.eq_nil_or_concat after with rfl | ⟨rest, b, rfl⟩
    · obtain ⟨hbefore, hx⟩ := List.append_inj' h rfl
      exact .inl ⟨hbefore, (List.cons.inj hx).1, rfl⟩
    · rw [List.concat_eq_append, ← List.cons_append, ← List.append_assoc] at h
      obtain ⟨hbefore, hb⟩ := List.append_inj' h rfl
      obtain rfl := (List.cons.inj hb).1
      exact .inr ⟨rest, hbefore, List.concat_eq_append⟩
  · rintro (⟨rfl, rfl, rfl⟩ | ⟨rest, rfl, rfl⟩)
    · rfl
    · rw [List.append_assoc, List.cons_append]

theorem filesAfter_concat : filesAfter top (past ++ [e]) = e.change (filesAfter top past) := by
  rw [filesAfter, List.foldl_concat, filesAfter]

theorem after_concat : Session.after top (past ++ [e]) = (Session.after top past).step e := by
  rw [Session.after, List.foldl_concat, Session.after]

theorem registered_concat_iff :
    Registered (past ++ [e]) name path ↔
      e = .add name path ∨ ((∀ other, e ≠ .add name other) ∧ Registered past name path) := by
  constructor
  · rintro ⟨added, last⟩
    rcases concat_eq_append_cons_iff.mp added with ⟨-, he, -⟩ | ⟨rest, hpast, rfl⟩
    · exact .inl he
    · refine .inr ⟨fun other he => last other ?_, hpast, fun other hmem => last other ?_⟩
      · rw [he]
        exact List.mem_append_right _ List.mem_cons_self
      · exact List.mem_append_left _ hmem
  · rintro (rfl | ⟨hother, ⟨hpast, last⟩⟩)
    · exact ⟨rfl, by simp⟩
    · refine ⟨concat_eq_append_cons_iff.mpr (.inr ⟨_, hpast, rfl⟩), fun other hmem => ?_⟩
      rcases List.mem_append.mp hmem with hmem | hmem
      · exact last other hmem
      · exact hother other (List.mem_singleton.mp hmem).symm

theorem wasRead_concat_iff :
    WasRead top (past ++ [e]) name ↔
      WasRead top past name ∨ (e = .load name ∧ ∃ path bytes, Reads top past name path bytes) := by
  constructor
  · rintro ⟨loaded, reads⟩
    rcases concat_eq_append_cons_iff.mp loaded with ⟨rfl, he, -⟩ | ⟨rest, hpast, -⟩
    · exact .inr ⟨he, _, _, reads⟩
    · exact .inl ⟨hpast, reads⟩
  · rintro (⟨hpast, reads⟩ | ⟨rfl, path, bytes, reads⟩)
    · exact ⟨concat_eq_append_cons_iff.mpr (.inr ⟨_, hpast, rfl⟩), reads⟩
    · exact ⟨rfl, reads⟩

theorem firstRead_concat_iff :
    FirstRead top (past ++ [e]) name path bytes ↔
      FirstRead top past name path bytes ∨
        (e = .load name ∧ Reads top past name path bytes ∧ ¬ WasRead top past name) := by
  constructor
  · rintro ⟨loaded, reads, first⟩
    rcases concat_eq_append_cons_iff.mp loaded with ⟨rfl, he, -⟩ | ⟨rest, hpast, -⟩
    · exact .inr ⟨he, reads, first⟩
    · exact .inl ⟨hpast, reads, first⟩
  · rintro (⟨hpast, reads, first⟩ | ⟨rfl, reads, first⟩)
    · exact ⟨concat_eq_append_cons_iff.mpr (.inr ⟨_, hpast, rfl⟩), reads, first⟩
    · exact ⟨rfl, reads, first⟩

/-- Of the loads that could read a file, one is the first. -/
theorem wasRead_iff : WasRead top past name ↔ ∃ path bytes, FirstRead top past name path bytes := by
  induction past using List.reverseRecOn with
  | nil =>
    constructor
    · rintro ⟨loaded, -⟩
      simp at loaded
    · rintro ⟨_, _, ⟨loaded, -, -⟩⟩
      simp at loaded
  | append_singleton past e ih =>
    simp only [wasRead_concat_iff, firstRead_concat_iff, exists_or, ← ih]
    constructor
    · rintro (h | ⟨he, path, bytes, reads⟩)
      · exact .inl h
      · by_cases h : WasRead top past name
        · exact .inl h
        · exact .inr ⟨path, bytes, he, reads, h⟩
    · rintro (h | ⟨path, bytes, he, reads, -⟩)
      · exact .inl h
      · exact .inr ⟨he, path, bytes, reads⟩

/-! ### What is kept follows from what happened -/

/-- Samples and files are what they must be after events: each name is registered as it was last,
and kept is what was first read. -/
structure Follows (top : Node) (past : List Event) (s : Session) : Prop where
  files : s.files = filesAfter top past
  path_iff : ∀ name path, s.samples.paths.get? name = some path ↔ Registered past name path
  found_iff : ∀ name found, s.samples.loaded.get? name = some found ↔
    ∃ path bytes, FirstRead top past name path bytes ∧ found = Sample.decode path bytes

/-- Nothing has happened. -/
theorem follows_nil (top : Node) : Follows top [] ⟨top, Samples.empty⟩ := by
  refine ⟨rfl, fun name path => ?_, fun name found => ?_⟩
  · constructor
    · intro h
      simp [Samples.empty] at h
    · rintro ⟨added, -⟩
      simp at added
  · constructor
    · intro h
      simp [Samples.empty] at h
    · rintro ⟨_, _, ⟨loaded, -, -⟩, -⟩
      simp at loaded

variable {s : Session}

theorem Follows.reads_iff (h : Follows top past s) :
    Reads top past name path bytes ↔
      s.samples.paths.get? name = some path ∧ FileTree.bytesAt s.files path = .ok bytes := by
  rw [h.path_iff, h.files]
  exact ⟨fun hreads => ⟨hreads.registered, hreads.read⟩, fun ⟨hregistered, hread⟩ =>
    ⟨hregistered, hread⟩⟩

theorem Follows.wasRead_iff (h : Follows top past s) :
    WasRead top past name ↔ ∃ found, s.samples.loaded.get? name = some found := by
  rw [Samples.wasRead_iff]
  simp only [h.found_iff]
  constructor
  · rintro ⟨path, bytes, hfirst⟩
    exact ⟨_, path, bytes, hfirst, rfl⟩
  · rintro ⟨found, path, bytes, hfirst, -⟩
    exact ⟨path, bytes, hfirst⟩

theorem load_of_unregistered {samples : Samples} (h : samples.paths.get? name = none)
    (files : Node) :
    samples.load files name = .ok (.error (.sampleLoad name .noSample), samples) := by
  rw [load, h]

theorem load_of_kept {samples : Samples} {found : Except Reason Model}
    (hpath : samples.paths.get? name = some path) (h : samples.loaded.get? name = some found)
    (files : Node) : samples.load files name = .ok (answer name found, samples) := by
  rw [load, hpath, h]

theorem load_of_unreadable {samples : Samples} {files : Node} {fault : FileFault}
    (hpath : samples.paths.get? name = some path) (hnone : samples.loaded.get? name = none)
    (h : FileTree.bytesAt files path = .error fault) :
    samples.load files name = .error (.unreadable path fault) := by
  simp only [load, hpath, hnone, h]

theorem load_of_read {samples : Samples} {files : Node}
    (hpath : samples.paths.get? name = some path) (hnone : samples.loaded.get? name = none)
    (h : FileTree.bytesAt files path = .ok bytes) :
    samples.load files name = .ok (answer name (Sample.decode path bytes),
      { samples with loaded := samples.loaded.insert name (Sample.decode path bytes) }) := by
  simp only [load, hpath, hnone, h]

/-- A load registers nothing. -/
theorem paths_touched_load : (s.touched (.load name)).paths = s.samples.paths := by
  rw [Session.touched]
  cases hpath : s.samples.paths.get? name with
  | none => rw [load_of_unregistered hpath]
  | some path =>
    cases hfound : s.samples.loaded.get? name with
    | some found => rw [load_of_kept hpath hfound]
    | none =>
      cases hread : FileTree.bytesAt s.files path with
      | error fault => rw [load_of_unreadable hpath hfound hread]
      | ok bytes => rw [load_of_read hpath hfound hread]

/-- Paths change when a sample is registered. -/
theorem Follows.path_touched_iff (h : Follows top past s) (e : Event) (name path : String) :
    (s.touched e).paths.get? name = some path ↔ Registered (past ++ [e]) name path := by
  rw [registered_concat_iff, ← h.path_iff]
  cases e with
  | add other at_ =>
    rw [Session.touched, Samples.add, KeyMap.get?_insert]
    by_cases hname : name = other
    · subst hname
      simp
    · simp [hname, Ne.symm hname]
  | load other => simp [paths_touched_load]
  | write _ _ => simp [Session.touched]
  | remove _ => simp [Session.touched]

/-- A load keeps what it reads, if nothing is kept under the name. -/
theorem found_touched_load_iff (s : Session) (loaded name : String) (found : Except Reason Model) :
    (s.touched (.load loaded)).loaded.get? name = some found ↔
      s.samples.loaded.get? name = some found ∨
        (loaded = name ∧ s.samples.loaded.get? name = none ∧
          ∃ path bytes, s.samples.paths.get? name = some path ∧
            FileTree.bytesAt s.files path = .ok bytes ∧ found = Sample.decode path bytes) := by
  rw [Session.touched]
  -- Only the last of the four ways that a load can go keeps anything, and it needs the other three
  -- to be ruled out.
  cases hpath : s.samples.paths.get? loaded with
  | none =>
    rw [load_of_unregistered hpath]
    refine (or_iff_left ?_).symm
    rintro ⟨rfl, -, path, bytes, hpath', -⟩
    simp [hpath] at hpath'
  | some path =>
    cases hkept : s.samples.loaded.get? loaded with
    | some kept =>
      rw [load_of_kept hpath hkept]
      refine (or_iff_left ?_).symm
      rintro ⟨rfl, hnone, -⟩
      simp [hkept] at hnone
    | none =>
      cases hread : FileTree.bytesAt s.files path with
      | error fault =>
        rw [load_of_unreadable hpath hkept hread]
        refine (or_iff_left ?_).symm
        rintro ⟨rfl, -, path', bytes, hpath', hread', -⟩
        obtain rfl := Option.some.inj (hpath.symm.trans hpath')
        simp [hread] at hread'
      | ok bytes =>
        rw [load_of_read hpath hkept hread]
        simp only [KeyMap.get?_insert]
        by_cases hname : name = loaded
        · subst hname
          simp [hkept, hpath, hread, eq_comm]
        · simp [hname, Ne.symm hname]

/-- What is kept changes when a file is first read. -/
theorem Follows.found_touched_iff (h : Follows top past s) (e : Event) (name : String)
    (found : Except Reason Model) :
    (s.touched e).loaded.get? name = some found ↔
      ∃ path bytes, FirstRead top (past ++ [e]) name path bytes ∧
        found = Sample.decode path bytes := by
  simp only [firstRead_concat_iff, h.reads_iff, h.wasRead_iff]
  have hkept := h.found_iff name found
  cases e with
  | add other at_ => simpa [Session.touched, Samples.add] using hkept
  | write _ _ => simpa [Session.touched] using hkept
  | remove _ => simpa [Session.touched] using hkept
  | load loaded =>
    rw [found_touched_load_iff, hkept, Option.eq_none_iff_forall_ne_some]
    constructor
    · rintro (⟨path, bytes, hfirst, hfound⟩ | ⟨rfl, hnone, path, bytes, hpath, hread, hfound⟩)
      · exact ⟨path, bytes, .inl hfirst, hfound⟩
      · exact ⟨path, bytes, .inr ⟨rfl, ⟨hpath, hread⟩, fun ⟨kept, h⟩ => hnone kept h⟩, hfound⟩
    · rintro ⟨path, bytes, hfirst | ⟨hload, ⟨hpath, hread⟩, hnone⟩, hfound⟩
      · exact .inl ⟨path, bytes, hfirst, hfound⟩
      · exact .inr ⟨Event.load.inj hload, fun kept h => hnone ⟨kept, h⟩, path, bytes, hpath, hread,
          hfound⟩

theorem Follows.step (h : Follows top past s) (e : Event) :
    Follows top (past ++ [e]) (s.step e) where
  files := by rw [filesAfter_concat, ← h.files, Session.step]
  path_iff := h.path_touched_iff e
  found_iff := h.found_touched_iff e

theorem follows_after (top : Node) (past : List Event) :
    Follows top past (Session.after top past) := by
  induction past using List.reverseRecOn with
  | nil => exact follows_nil top
  | append_singleton past e ih =>
    rw [after_concat]
    exact ih.step e

/-! ### What a load answers -/

/-- A name that is registered stays so. -/
theorem exists_registered_concat (h : ∃ path, Registered past name path) (e : Event) :
    ∃ path, Registered (past ++ [e]) name path := by
  simp only [registered_concat_iff]
  by_cases hadd : ∃ other, e = .add name other
  · obtain ⟨other, rfl⟩ := hadd
    exact ⟨other, .inl rfl⟩
  · obtain ⟨path, hpath⟩ := h
    exact ⟨path, .inr ⟨fun other he => hadd ⟨other, he⟩, hpath⟩⟩

theorem WasRead.exists_registered (h : WasRead top past name) :
    ∃ path, Registered past name path := by
  induction past using List.reverseRecOn with
  | nil =>
    obtain ⟨loaded, -⟩ := h
    simp at loaded
  | append_singleton past e ih =>
    rcases wasRead_concat_iff.mp h with h | ⟨-, path, bytes, reads⟩
    · exact exists_registered_concat (ih h) e
    · exact exists_registered_concat ⟨path, reads.registered⟩ e

/-- After any events, a load of a sample that is not registered says so, whatever the files are.
Else, if some load before could read its file, it answers what the first such load read, whatever
the files are by now. Else it answers what its file holds by now; and if that cannot be read, the
load fails and leaves all as it is, so that the next one tries again. -/
theorem load_answers (top : Node) (past : List Event) (name : String) :
    (Session.after top past).files = filesAfter top past ∧
    ((∀ path, ¬ Registered past name path) → ∀ files,
      (Session.after top past).samples.load files name =
        .ok (.error (.sampleLoad name .noSample), (Session.after top past).samples)) ∧
    (WasRead top past name → ∃ path bytes, FirstRead top past name path bytes ∧ ∀ files,
      (Session.after top past).samples.load files name =
        .ok (answer name (Sample.decode path bytes), (Session.after top past).samples)) ∧
    ∀ path, Registered past name path → ¬ WasRead top past name →
      (∀ bytes, FileTree.bytesAt (filesAfter top past) path = .ok bytes →
        ∃ samples, (Session.after top past).samples.load (filesAfter top past) name =
          .ok (answer name (Sample.decode path bytes), samples)) ∧
      ∀ fault, FileTree.bytesAt (filesAfter top past) path = .error fault →
        (Session.after top past).samples.load (filesAfter top past) name =
          .error (.unreadable path fault) ∧
        Session.after top (past ++ [.load name]) = Session.after top past := by
  have h := follows_after top past
  refine ⟨h.files, fun hnone files => ?_, fun hread => ?_, fun path hregistered hnot => ?_⟩
  · have hpath : (Session.after top past).samples.paths.get? name = none :=
      Option.eq_none_iff_forall_ne_some.mpr fun path hpath =>
        hnone path ((h.path_iff name path).mp hpath)
    exact load_of_unregistered hpath files
  · obtain ⟨now, hregistered⟩ := hread.exists_registered
    obtain ⟨path, bytes, hfirst⟩ := wasRead_iff.mp hread
    have hfound := (h.found_iff name _).mpr ⟨path, bytes, hfirst, rfl⟩
    exact ⟨path, bytes, hfirst, load_of_kept ((h.path_iff name now).mpr hregistered) hfound⟩
  · have hpath := (h.path_iff name path).mpr hregistered
    have hkept : (Session.after top past).samples.loaded.get? name = none :=
      Option.eq_none_iff_forall_ne_some.mpr fun found hfound =>
        hnot (h.wasRead_iff.mpr ⟨found, hfound⟩)
    refine ⟨fun bytes hbytes => ⟨_, load_of_read hpath hkept hbytes⟩, fun fault hfault => ?_⟩
    have hload := load_of_unreadable hpath hkept hfault
    refine ⟨hload, ?_⟩
    rw [after_concat, Session.step, Session.touched, h.files, hload, Event.change, ← h.files]

/-- A sample that is missing when it is first loaded, then a model, and then none. -/
def rewritten : List Event :=
  [.add "a" "/a.json", .load "a", .write "/a.json" (.file [0x7b, 0x7d]), .load "a",
    .write "/a.json" (.file [0x78])]

theorem load_answers_rewritten :
    (¬ WasRead (.dir []) (rewritten.take 1) "a" ∧
      Session.after (.dir []) (rewritten.take 1 ++ [.load "a"]) =
        Session.after (.dir []) (rewritten.take 1)) ∧
    WasRead (.dir []) rewritten "a" ∧
    ∃ path bytes, FirstRead (.dir []) rewritten "a" path bytes ∧ ∀ files,
      (Session.after (.dir []) rewritten).samples.load files "a" =
        .ok (answer "a" (Sample.decode path bytes),
          (Session.after (.dir []) rewritten).samples) := by
  have hregistered : Registered (rewritten.take 1) "a" "/a.json" :=
    ⟨show _ = [] ++ Event.add "a" "/a.json" :: [] from rfl, by simp⟩
  have hnot : ¬ WasRead (.dir []) (rewritten.take 1) "a" := by
    rintro ⟨loaded, -⟩
    have hload : Event.load "a" ∈ rewritten.take 1 :=
      loaded ▸ List.mem_append_right _ List.mem_cons_self
    simp [rewritten] at hload
  have hmissing : FileTree.bytesAt (filesAfter (.dir []) (rewritten.take 1)) "/a.json" =
      .error .notFound := by
    decide +kernel
  have hreads : Reads (.dir []) (rewritten.take 3) "a" "/a.json" [0x7b, 0x7d] :=
    ⟨⟨show _ = [] ++ Event.add "a" "/a.json" :: (rewritten.take 3).tail from rfl,
      by simp [rewritten]⟩,
      by decide +kernel⟩
  have hread : WasRead (.dir []) rewritten "a" :=
    ⟨show _ = rewritten.take 3 ++ Event.load "a" :: rewritten.drop 4 from rfl, hreads⟩
  have hfails := (load_answers (.dir []) (rewritten.take 1) "a").2.2.2 _ hregistered hnot
  exact ⟨⟨hnot, (hfails.2 _ hmissing).2⟩, hread, (load_answers (.dir []) rewritten "a").2.2.1 hread⟩

end TemplateCheck.Samples
