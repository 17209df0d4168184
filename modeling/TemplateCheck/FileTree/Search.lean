import TemplateCheck.FileTree.Basic
import TemplateCheck.Problem

/-!
# Searching upwards

A search from a directory up to the root directory, with predicates that look at each directory
on the way.

* `SearchStep` — what a predicate decides about a directory;
* `Search.ancestors` — the directories on the way, nearest first; `Search.mem_ancestors_iff` and
  `Search.mem_tail_ancestors_iff` tell which these are;
* `Search.upward` — the search: in each directory the predicates are asked in order, and the
  first decision ends it;
* `Search.firstFile` — the predicate that looks for a file by several names.

Predicates run in a monad, so that they may fail or keep a record of what they are asked.
-/

namespace TemplateCheck

/-- What a predicate decides about one directory. -/
inductive SearchStep (α : Type) where
  /-- No opinion: the search goes on. -/
  | next
  /-- The search ends with this value. -/
  | stop (value : α)
deriving Repr

namespace Search

variable {m : Type → Type} [Monad m] {α : Type}

/-- The directory with the given names and every directory above it. -/
def ancestors : List String → List (List String)
  | [] => [[]]
  | name :: above => (name :: above) :: ancestors above

theorem mem_ancestors_iff (dir names : List String) : dir ∈ ancestors names ↔ dir <:+ names := by
  induction names with
  | nil => rw [ancestors, List.mem_singleton, List.suffix_nil]
  | cons name above ih => rw [ancestors, List.mem_cons, List.suffix_cons_iff, ih]

/-- Strictly above a directory are those that are left when some of its names are taken away. -/
theorem mem_tail_ancestors_iff (dir names : List String) :
    dir ∈ (ancestors names).tail ↔ ∃ below, below ≠ [] ∧ names = below ++ dir := by
  cases names with
  | nil =>
    constructor
    · intro h
      cases h
    · intro ⟨below, hne, hnames⟩
      exact absurd (List.append_eq_nil_iff.mp hnames.symm).1 hne
  | cons name above =>
    rw [ancestors, List.tail_cons, mem_ancestors_iff]
    constructor
    · intro ⟨below, hbelow⟩
      exact ⟨name :: below, List.cons_ne_nil _ _, by rw [← hbelow, List.cons_append]⟩
    · intro ⟨below, hne, hnames⟩
      cases below with
      | nil => exact absurd rfl hne
      | cons _ below => exact ⟨below, (List.cons.inj hnames).2.symm⟩

/-- Ask the predicates about one directory, in order, up to the first decision. -/
def ask (dir : String) : List (String → m (SearchStep α)) → m (SearchStep α)
  | [] => pure .next
  | p :: ps => do
    match ← p dir with
    | .stop value => pure (.stop value)
    | .next => ask dir ps

/-- Ask the predicates about each directory, in order, up to the first decision. -/
def askAll (predicates : List (String → m (SearchStep α))) :
    List (List String) → m (Option α)
  | [] => pure none
  | dir :: dirs => do
    match ← ask (Path.ofNames dir) predicates with
    | .stop value => pure (some value)
    | .next => askAll predicates dirs

/-- Search from `start`, seen from the working directory `cwd`, up to the root directory.
Without predicates nothing is found. -/
def upward [MonadExcept Problem m] (cwd start : String)
    (predicates : List (String → m (SearchStep α))) : m (Option α) :=
  if predicates.isEmpty then pure none
  else
    match Path.absolute? cwd start with
    | none => throw (.io .emptyPath)
    | some path => askAll predicates (ancestors (Path.cleaned path))

/-- Stop at the first of `names` that leads from the directory to something other than a
directory, with its path. A name that leads nowhere is passed over; every other fault ends the
search. -/
def firstFile (top : FileTree.Node) (names : List String) (dir : String) :
    Except Problem (SearchStep String) :=
  match names with
  | [] => .ok .next
  | name :: names =>
    let candidate := Path.join dir name
    match FileTree.isDir top candidate with
    | .ok false => .ok (.stop candidate)
    | .ok true => firstFile top names dir
    | .error fault =>
      if fault.isAbsence then firstFile top names dir else .error (.io fault)

end Search

end TemplateCheck
