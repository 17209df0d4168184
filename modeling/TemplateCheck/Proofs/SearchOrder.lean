import TemplateCheck.Proofs.Discovery
import TemplateCheck.Proofs.Path.Cleaning

/-!
# The order of a search upwards

A search asks its predicates about one directory after the other. Here each call of a predicate is
noted before it is answered, so that a search tells which calls it made, and in which order.

* `Search.firstStep` — decisions asked for one after the other, up to the first that ends the
  search;
* `Search.upward_eq_firstStep` — a search is that, for all directories and in each for all
  predicates;
* `Search.Call`, `Search.noted` — predicates that note their calls;
* `Search.possible`, `Search.Decides` — the calls that a search can make with the answers to them,
  and the calls that it makes of these;
* `Search.firstFile_append` — a list of names in two parts;
* `Search.upward_in_order` — a search makes the possible calls up to the first decision, and a
  predicate that looks for files may be put in the place of two.
-/

namespace TemplateCheck.Search

/-! ### One decision after the other -/

/-- The value that a decision ends a search with. -/
def valueOf {α : Type} : SearchStep α → Option α
  | .stop value => some value
  | .next => none

section FirstStep

variable {m : Type → Type} [Monad m] {α : Type}

/-- Decisions asked for one after the other, up to the first that ends the search. -/
def firstStep : List (m (SearchStep α)) → m (SearchStep α)
  | [] => pure .next
  | step :: steps => do
    match ← step with
    | .stop value => pure (.stop value)
    | .next => firstStep steps

theorem ask_eq_firstStep (dir : String) (predicates : List (String → m (SearchStep α))) :
    ask dir predicates = firstStep (predicates.map fun p => p dir) := by
  induction predicates with
  | nil => rfl
  | cons p predicates ih =>
    rw [ask, ih]
    rfl

variable [LawfulMonad m]

theorem firstStep_append (steps later : List (m (SearchStep α))) :
    firstStep (steps ++ later) = (do
      match ← firstStep steps with
      | .stop value => pure (.stop value)
      | .next => firstStep later) := by
  induction steps with
  | nil => simp [firstStep]
  | cons step steps ih =>
    rw [List.cons_append, firstStep, firstStep, bind_assoc]
    apply bind_congr
    intro decision
    cases decision with
    | stop value => simp
    | next => exact ih

/-- Decisions that are asked for together are asked for in their place. -/
theorem firstStep_firstStep (steps together later : List (m (SearchStep α))) :
    firstStep (steps ++ firstStep together :: later) =
      firstStep (steps ++ (together ++ later)) := by
  rw [firstStep_append, firstStep_append, firstStep_append]
  rfl

/-- A search through directories is one list of decisions, directory by directory. -/
theorem askAll_eq_firstStep (predicates : List (String → m (SearchStep α)))
    (dirs : List (List String)) :
    askAll predicates dirs =
      valueOf <$> firstStep ((dirs.map Path.ofNames).flatMap fun dir =>
        predicates.map fun p => p dir) := by
  induction dirs with
  | nil => simp [askAll, firstStep, valueOf]
  | cons dir dirs ih =>
    rw [askAll, ask_eq_firstStep, List.map_cons, List.flatMap_cons, firstStep_append, map_bind]
    apply bind_congr
    intro decision
    cases decision with
    | stop value => simp [valueOf]
    | next => exact ih

theorem upward_eq_firstStep [MonadExcept Problem m] {cwd start path : String}
    (h : Path.absolute? cwd start = some path) (predicates : List (String → m (SearchStep α))) :
    upward cwd start predicates =
      valueOf <$> firstStep ((Path.directories path).flatMap fun dir =>
        predicates.map fun p => p dir) := by
  rw [Path.directories, ← askAll_eq_firstStep, upward, h]
  cases predicates with
  | nil =>
    have hnone : ∀ dirs : List String, (dirs.flatMap fun dir =>
        ([] : List (String → m (SearchStep α))).map fun p => p dir) = [] := by simp
    rw [askAll_eq_firstStep, hnone]
    simp [firstStep, valueOf]
  | cons p predicates => rfl

end FirstStep

/-! ### Calls -/

variable {α : Type}

/-- A call of a predicate: the directory that it is asked about, and its place among the
predicates. -/
structure Call where
  dir : String
  predicate : Nat
deriving Repr, DecidableEq

/-- An answer, with the call for it noted first. -/
def note (call : Call) (answer : Except Problem (SearchStep α)) :
    ExceptT Problem (StateM (List Call)) (SearchStep α) := do
  modify (· ++ [call])
  ExceptT.mk (pure answer)

/-- Predicates that note each call and then answer as before. -/
def noted (predicates : List (String → Except Problem (SearchStep α))) :
    List (String → ExceptT Problem (StateM (List Call)) (SearchStep α)) :=
  predicates.zipIdx.map fun p dir => note ⟨dir, p.2⟩ (p.1 dir)

/-- The calls that can be made for some directories, with the answers to them: directory by
directory, and for each directory predicate by predicate. -/
def possible (predicates : List (String → Except Problem (SearchStep α))) (dirs : List String) :
    List (Call × Except Problem (SearchStep α)) :=
  dirs.flatMap fun dir => predicates.zipIdx.map fun p => (⟨dir, p.2⟩, p.1 dir)

/-- The calls that are made of those that can be, and what comes of them: all calls are made up to
the first that is not answered by going on, and its answer is the outcome. -/
inductive Decides (calls : List (Call × Except Problem (SearchStep α))) :
    List Call → Except Problem (Option α) → Prop
  | stopped {before after : List (Call × Except Problem (SearchStep α))} {call : Call} {value : α}
      (calls_eq : calls = before ++ (call, .ok (.stop value)) :: after)
      (undecided : ∀ c ∈ before, c.2 = .ok .next) :
      Decides calls (before.map (·.1) ++ [call]) (.ok (some value))
  | failed {before after : List (Call × Except Problem (SearchStep α))} {call : Call} {p : Problem}
      (calls_eq : calls = before ++ (call, .error p) :: after)
      (undecided : ∀ c ∈ before, c.2 = .ok .next) :
      Decides calls (before.map (·.1) ++ [call]) (.error p)
  | exhausted (undecided : ∀ c ∈ calls, c.2 = .ok .next) :
      Decides calls (calls.map (·.1)) (.ok none)

/-- A call that is answered by going on comes before all that is made of the later ones. -/
theorem Decides.cons {calls : List (Call × Except Problem (SearchStep α))} {made : List Call}
    {result : Except Problem (Option α)} (call : Call) (h : Decides calls made result) :
    Decides ((call, .ok .next) :: calls) (call :: made) result := by
  cases h with
  | @stopped before after c value heq hundecided =>
    have hcalls : (call, .ok .next) :: calls =
        ((call, .ok .next) :: before) ++ (c, .ok (.stop value)) :: after := by
      rw [heq, List.cons_append]
    exact .stopped hcalls (List.forall_mem_cons.mpr ⟨rfl, hundecided⟩)
  | @failed before after c p heq hundecided =>
    have hcalls : (call, .ok .next) :: calls =
        ((call, .ok .next) :: before) ++ (c, .error p) :: after := by
      rw [heq, List.cons_append]
    exact .failed hcalls (List.forall_mem_cons.mpr ⟨rfl, hundecided⟩)
  | exhausted hundecided =>
    exact .exhausted (List.forall_mem_cons.mpr ⟨rfl, hundecided⟩)

/-- Noted calls add to what was noted before just those that are made, and the outcome is the one
without notes. -/
theorem run_noted (calls : List (Call × Except Problem (SearchStep α))) (log : List Call) :
    ∃ made, (firstStep (calls.map fun c => note c.1 c.2)).run.run log =
        (firstStep (calls.map (·.2)), log ++ made) ∧
      Decides calls made (valueOf <$> firstStep (calls.map (·.2))) := by
  induction calls generalizing log with
  | nil => exact ⟨[], by rw [List.append_nil]; rfl, .exhausted (by simp)⟩
  | cons c calls ih =>
    obtain ⟨call, answer⟩ := c
    cases answer with
    | error p => exact ⟨[call], rfl, .failed (List.nil_append _).symm (by simp)⟩
    | ok decision =>
      cases decision with
      | stop value => exact ⟨[call], rfl, .stopped (List.nil_append _).symm (by simp)⟩
      | next =>
        obtain ⟨made, hrun, hmade⟩ := ih (log ++ [call])
        refine ⟨call :: made, ?_, hmade.cons call⟩
        rw [List.append_assoc] at hrun
        exact hrun

theorem flatMap_noted (predicates : List (String → Except Problem (SearchStep α)))
    (dirs : List String) :
    (dirs.flatMap fun dir => (noted predicates).map fun p => p dir) =
      (possible predicates dirs).map fun c => note c.1 c.2 := by
  rw [possible, List.map_flatMap]
  simp only [noted, List.map_map]
  rfl

theorem flatMap_answers (predicates : List (String → Except Problem (SearchStep α)))
    (dirs : List String) :
    (dirs.flatMap fun dir => predicates.map fun p => p dir) =
      (possible predicates dirs).map (·.2) := by
  have hplain : ∀ dir, (predicates.map fun p => p dir) =
      predicates.zipIdx.map fun p => p.1 dir := by
    intro dir
    have hmap : (predicates.zipIdx.map fun p => p.1 dir) =
        (predicates.zipIdx.map Prod.fst).map fun p => p dir := by
      rw [List.map_map]
      rfl
    rw [hmap, List.zipIdx_map_fst]
  rw [possible, List.map_flatMap]
  simp only [hplain, List.map_map]
  rfl

/-! ### Lists of file names -/

/-- Of two lists of names the second is tried where the first finds nothing. -/
theorem firstFile_append (top : FileTree.Node) (xs ys : List String) (dir : String) :
    firstFile top (xs ++ ys) dir = firstStep [firstFile top xs dir, firstFile top ys dir] := by
  rw [firstFile_eq, firstFile_eq, firstFile_eq, List.map_append, firstAmong_append]
  cases firstAmong top (xs.map (Path.join dir)) with
  | error p => rfl
  | ok found =>
    cases found with
    | some path => rfl
    | none =>
      cases firstAmong top (ys.map (Path.join dir)) with
      | error p => rfl
      | ok found => cases found <;> rfl

/-- In each directory a predicate that tries two lists of names asks for what two predicates would
ask for in its place. -/
theorem ask_firstFile_append (top : FileTree.Node) (xs ys : List String)
    (before after : List (String → Except Problem (SearchStep String))) (dir : String) :
    ask dir (before ++ firstFile top (xs ++ ys) :: after) =
      ask dir (before ++ firstFile top xs :: firstFile top ys :: after) := by
  rw [ask_eq_firstStep, ask_eq_firstStep, List.map_append, List.map_cons, firstFile_append,
    firstStep_firstStep, List.map_append]
  rfl

theorem askAll_congr {predicates others : List (String → Except Problem (SearchStep α))}
    (h : ∀ dir, ask dir predicates = ask dir others) (dirs : List (List String)) :
    askAll predicates dirs = askAll others dirs := by
  induction dirs with
  | nil => rfl
  | cons dir dirs ih => rw [askAll, askAll, h, ih]

theorem upward_firstFile_append (cwd start : String) (top : FileTree.Node) (xs ys : List String)
    (before after : List (String → Except Problem (SearchStep String))) :
    upward cwd start (before ++ firstFile top (xs ++ ys) :: after) =
      upward cwd start (before ++ firstFile top xs :: firstFile top ys :: after) := by
  have hfull : ∀ p (rest : List (String → Except Problem (SearchStep String))),
      (before ++ p :: rest).isEmpty = false := by simp
  rw [upward, upward, hfull, hfull]
  cases Path.absolute? cwd start with
  | none => rfl
  | some path => exact askAll_congr (ask_firstFile_append top xs ys before after) _

/-! ### The order -/

/-- A search from a path that can be made absolute makes the possible calls for the cleaned path and
each directory above it up to the root directory, once each, nearest first, and in each directory
for the predicates in order, until one is not answered by going on; and that answer is the outcome.
Without predicates no call is possible. Wherever it stands, a predicate that looks for the files of
two lists of names, in whatever tree, may give its place to one for each list. -/
theorem upward_in_order (cwd start : String)
    (predicates : List (String → Except Problem (SearchStep α))) :
    (∀ path, Path.absolute? cwd start = some path →
      Path.Ascends (Path.clean path) (Path.directories path) ∧ (Path.directories path).Nodup ∧
      ∃ made result, (upward cwd start (noted predicates)).run.run [] = (result, made) ∧
        Decides (possible predicates (Path.directories path)) made result ∧
        upward cwd start predicates = result) ∧
    ∀ top xs ys (before after : List (String → Except Problem (SearchStep String))),
      upward cwd start (before ++ firstFile top (xs ++ ys) :: after) =
        upward cwd start (before ++ firstFile top xs :: firstFile top ys :: after) := by
  refine ⟨?_, upward_firstFile_append cwd start⟩
  intro path h
  have hascends := Path.ascends_directories path
  obtain ⟨made, hrun, hdecides⟩ := run_noted (possible predicates (Path.directories path)) []
  rw [← flatMap_noted, ← flatMap_answers] at hrun
  rw [← flatMap_answers, ← upward_eq_firstStep h] at hdecides
  refine ⟨hascends, hascends.nodup, made, _, ?_, hdecides, rfl⟩
  rw [upward_eq_firstStep h, upward_eq_firstStep h, ExceptT.run_map, StateT.run_map, hrun]
  rfl

/-- A predicate that ends the search in one directory. -/
def stopAt (wanted dir : String) : Except Problem (SearchStep String) :=
  .ok (if dir = wanted then .stop dir else .next)

/-- The predicate for `/` is asked first in each directory, but the search stops in the nearer
`/a`. -/
theorem upward_in_order_nearest :
    Path.absolute? "/a" "b/../c" = some "/a/b/../c" ∧
      Path.directories "/a/b/../c" = ["/a/c", "/a", "/"] ∧
      Decides (possible [stopAt "/", stopAt "/a"] (Path.directories "/a/b/../c"))
        [⟨"/a/c", 0⟩, ⟨"/a/c", 1⟩, ⟨"/a", 0⟩, ⟨"/a", 1⟩] (.ok (some "/a")) ∧
      upward "/a" "b/../c" [stopAt "/", stopAt "/a"] = .ok (some "/a") := by
  have habsolute : Path.absolute? "/a" "b/../c" = some "/a/b/../c" := by decide +kernel
  obtain ⟨_, _, made, result, hrun, hdecides, hresult⟩ :=
    (upward_in_order "/a" "b/../c" [stopAt "/", stopAt "/a"]).1 _ habsolute
  have hmade : ((upward "/a" "b/../c" (noted [stopAt "/", stopAt "/a"])).run.run []).2 =
      [⟨"/a/c", 0⟩, ⟨"/a/c", 1⟩, ⟨"/a", 0⟩, ⟨"/a", 1⟩] := by decide +kernel
  have hfound : upward "/a" "b/../c" [stopAt "/", stopAt "/a"] = .ok (some "/a") :=
    eq_ok_of_toOption (by decide +kernel)
  rw [hrun] at hmade
  change made = _ at hmade
  rw [hmade, ← hresult, hfound] at hdecides
  exact ⟨habsolute, by decide +kernel, hdecides, hfound⟩

end TemplateCheck.Search
