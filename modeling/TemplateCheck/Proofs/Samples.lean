import TemplateCheck.Samples
import TemplateCheck.Proofs.KeyMap

/-!
# Kept samples are those read afresh

Samples that have been read are kept for all templates of a scan. Nothing that is computed with kept
samples differs from what it is when each sample is read each time.

* `Samples.readAfresh` — the model of a sample, read for this once;
* `Samples.Kept` — all that is kept is what reading afresh gives;
* `Samples.Replays` — a computation with kept samples gives what another one gives without;
* `Samples.load_replays` — loading a sample gives what reading it afresh does.
-/

namespace TemplateCheck.Samples

/-- The model of the sample with a name, from its file as it is read for this once. -/
def readAfresh (top : FileTree.Node) (paths : KeyMap String) (name : String) :
    Except Problem (Except Problem Model) :=
  match paths.get? name with
  | none => .ok (.error (.sampleLoad name .noSample))
  | some path =>
    match FileTree.bytesAt top path with
    | .error fault => .error (.unreadable path fault)
    | .ok bytes => .ok (answer name (Sample.decode path bytes))

/-- Samples are registered as in `paths`, and what is kept about them is what their files hold. -/
structure Kept (top : FileTree.Node) (paths : KeyMap String) (s : Samples) : Prop where
  registered : s.paths = paths
  fresh : ∀ name found, s.loaded.get? name = some found →
    ∃ path bytes, paths.get? name = some path ∧ FileTree.bytesAt top path = .ok bytes ∧
      found = Sample.decode path bytes

/-- Samples that have just been registered. -/
theorem kept_of_loaded_empty (top : FileTree.Node) (paths : KeyMap String) :
    Kept top paths ⟨paths, KeyMap.empty⟩ := by
  refine ⟨rfl, fun name found h => ?_⟩
  rw [KeyMap.get?_empty] at h
  exact absurd h (by simp)

theorem Kept.insert {top : FileTree.Node} {paths : KeyMap String} {s : Samples}
    (h : Kept top paths s) {name path : String} {bytes : List UInt8}
    (hpath : paths.get? name = some path) (hbytes : FileTree.bytesAt top path = .ok bytes) :
    Kept top paths { s with loaded := s.loaded.insert name (Sample.decode path bytes) } := by
  refine ⟨h.registered, fun other found hfound => ?_⟩
  rw [KeyMap.get?_insert] at hfound
  split at hfound
  · rename_i hsame
    exact ⟨path, bytes, hsame ▸ hpath, hbytes, (Option.some.inj hfound).symm⟩
  · exact h.fresh other found hfound

/-! ### Computations with kept samples -/

/-- With samples registered as in `paths`, whatever is kept about them, a computation gives what
another one gives without samples, be it a fault. -/
def Replays {α : Type} (top : FileTree.Node) (paths : KeyMap String)
    (x : StateT Samples (Except Problem) α) (y : Except Problem α) : Prop :=
  ∀ s, Kept top paths s → ∃ s', Kept top paths s' ∧ x.run s = y.map fun a => (a, s')

variable {top : FileTree.Node} {paths : KeyMap String} {α β : Type}

theorem Replays.pure (a : α) : Replays top paths (pure a) (pure a) :=
  fun s hs => ⟨s, hs, rfl⟩

theorem Replays.bind {x : StateT Samples (Except Problem) α} {y : Except Problem α}
    {f : α → StateT Samples (Except Problem) β} {g : α → Except Problem β}
    (hx : Replays top paths x y) (hf : ∀ a, Replays top paths (f a) (g a)) :
    Replays top paths (x >>= f) (y >>= g) := by
  intro s hs
  obtain ⟨s₁, hs₁, hrun⟩ := hx s hs
  cases y with
  | error p =>
    refine ⟨s, hs, ?_⟩
    rw [StateT.run_bind, hrun]
    rfl
  | ok a =>
    obtain ⟨s₂, hs₂, hrun'⟩ := hf a s₁ hs₁
    refine ⟨s₂, hs₂, ?_⟩
    rw [StateT.run_bind, hrun]
    exact hrun'

theorem Replays.mapM {f : α → StateT Samples (Except Problem) β} {g : α → Except Problem β}
    (h : ∀ a, Replays top paths (f a) (g a)) (as : List α) :
    Replays top paths (as.mapM f) (as.mapM g) := by
  induction as with
  | nil =>
    rw [List.mapM_nil, List.mapM_nil]
    exact Replays.pure []
  | cons a as ih =>
    rw [List.mapM_cons, List.mapM_cons]
    exact (h a).bind fun b => ih.bind fun bs => Replays.pure (b :: bs)

/-- A computation that succeeds with kept samples succeeds without. -/
theorem Replays.eq_ok {x : StateT Samples (Except Problem) α} {y : Except Problem α}
    (h : Replays top paths x y) {s s' : Samples} (hs : Kept top paths s) {a : α}
    (hrun : x.run s = .ok (a, s')) : y = .ok a := by
  obtain ⟨s₁, -, heq⟩ := h s hs
  rw [heq] at hrun
  cases y with
  | error p => simp [Except.map] at hrun
  | ok b =>
    simp only [Except.map, Except.ok.injEq, Prod.mk.injEq] at hrun
    rw [hrun.1]

/-- A computation that fails with kept samples fails without. -/
theorem Replays.eq_error {x : StateT Samples (Except Problem) α} {y : Except Problem α}
    (h : Replays top paths x y) {s : Samples} (hs : Kept top paths s) {p : Problem}
    (hrun : x.run s = .error p) : y = .error p := by
  obtain ⟨s₁, -, heq⟩ := h s hs
  rw [heq] at hrun
  cases y with
  | error q => rw [Except.error.inj hrun]
  | ok b => simp [Except.map] at hrun

/-- What a computation does with the names registered does not depend on what is kept. -/
theorem Replays.get_bind {f : Samples → StateT Samples (Except Problem) α} {y : Except Problem α}
    (h : ∀ s, s.paths = paths → Replays top paths (f s) y) :
    Replays top paths (get >>= f) y :=
  fun s hs => h s hs.registered s hs

/-- Loading a sample gives what reading it afresh does, and keeps what it found. -/
theorem load_replays (name : String) :
    Replays top paths (fun s => s.load top name) (readAfresh top paths name) := by
  intro s hs
  obtain rfl := hs.registered
  show ∃ s', Kept top s.paths s' ∧ s.load top name = _
  rw [load, readAfresh]
  cases hpath : s.paths.get? name with
  | none => exact ⟨s, hs, rfl⟩
  | some path =>
    cases hloaded : s.loaded.get? name with
    | some found =>
      obtain ⟨path', bytes, hpath', hbytes, rfl⟩ := hs.fresh name found hloaded
      rw [hpath] at hpath'
      obtain rfl := Option.some.inj hpath'
      refine ⟨s, hs, ?_⟩
      simp only [hbytes]
      rfl
    | none =>
      cases hbytes : FileTree.bytesAt top path with
      | error fault => exact ⟨s, hs, by simp only [hbytes]; rfl⟩
      | ok bytes => exact ⟨_, hs.insert hpath hbytes, by simp only [hbytes]; rfl⟩

end TemplateCheck.Samples
