import TemplateCheck.Walk
import TemplateCheck.Proofs.FileTree
import TemplateCheck.Proofs.Text.ByteOrder

/-!
# A walk visits the regular files, in order

A walk goes through a tree by recursion and gives paths. Here it is compared with the names that
lead to files, which are told without any walk.

* `FileBelow` — some names lead from a root to a regular file with given bytes, or to a link to one;
* `Walk.namesAt` — the names that lead to the files at or below a node, in the order of the walk;
* `Walk.mem_namesAt_iff`, `Walk.pairwise_namesAt` — these are all names that lead to a file, in
  component-wise order;
* `Walk.filesAt_sublist`, `Walk.filesAt_eq` — a walk visits some of them, and without ignore files
  all of them, each by the path that its names spell;
* `Walk.FaultAbove` — an ignore file above a root has a malformed line;
* `Walk.files_of_faultAbove`, `Walk.files_sublist_plain` — a walk with ignore files has a fault in
  front just if there is such a line, and otherwise comes upon nothing that one without does not.
-/

namespace TemplateCheck

open FileTree (Node Leads)

/-- Names lead from a root, through directories alone, to a regular file with some bytes, or to a
link by which these bytes are read. -/
inductive FileBelow (top : Node) (root : String) (names : List String) (bytes : List UInt8) : Prop
  | file {place : FileTree.Place} (resolved : FileTree.resolve top root = .ok place)
      (leads : Leads place.node names (.file bytes))
  | link {place : FileTree.Place} {target : String}
      (resolved : FileTree.resolve top root = .ok place)
      (leads : Leads place.node names (.link target))
      (read : FileTree.bytesAt top (Path.descend root names) = .ok bytes)

namespace Walk

/-! ### Names in the order of the walk -/

mutual

/-- The names that lead to the regular files at or below a node with a path. -/
def namesAt (top : Node) (path : String) : Node → List (List String)
  | .file _ => [[]]
  | .link _ => if FileTree.isFile top path then [[]] else []
  | .dir entries => namesBelow top path entries

/-- The names that lead to the regular files at or below the entries of a directory. -/
def namesBelow (top : Node) (path : String) : List (String × Node) → List (List String)
  | [] => []
  | (name, node) :: rest =>
    (namesAt top (Path.join path name) node).map (name :: ·) ++ namesBelow top path rest

end

/-- Is a node with a path a regular file, or a link to one? -/
def IsRegular (top : Node) (path : String) : Node → Prop
  | .file _ => True
  | .link _ => FileTree.isFile top path = true
  | .dir _ => False

mutual

theorem mem_namesAt_iff (top : Node) (path : String) (names : List String) : (node : Node) →
    (names ∈ namesAt top path node ↔
      ∃ found, Leads node names found ∧ IsRegular top (Path.descend path names) found)
  | .file bytes => by
    rw [namesAt, List.mem_singleton]
    constructor
    · rintro rfl
      exact ⟨.file bytes, .here _, trivial⟩
    · rintro ⟨found, h, -⟩
      cases h
      rfl
  | .link target => by
    rw [namesAt]
    constructor
    · split
      · rename_i hfile
        intro h
        obtain rfl := List.mem_singleton.mp h
        exact ⟨.link target, .here _, hfile⟩
      · simp
    · rintro ⟨found, h, hregular⟩
      cases h
      have hfile : FileTree.isFile top path = true := hregular
      rw [if_pos hfile]
      exact List.mem_singleton.mpr rfl
  | .dir entries => by
    rw [namesAt, mem_namesBelow_iff]
    constructor
    · rintro ⟨name, child, rest, rfl, hentry, found, h, hregular⟩
      exact ⟨found, .down hentry h, hregular⟩
    · rintro ⟨found, h, hregular⟩
      cases h with
      | here => exact absurd hregular id
      | down hentry h => exact ⟨_, _, _, rfl, hentry, found, h, hregular⟩
termination_by structural node => node

theorem mem_namesBelow_iff (top : Node) (path : String) (names : List String) :
    (entries : List (String × Node)) →
    (names ∈ namesBelow top path entries ↔
      ∃ name child rest, names = name :: rest ∧ (name, child) ∈ entries ∧
        ∃ found, Leads child rest found ∧ IsRegular top (Path.descend path names) found)
  | [] => by simp [namesBelow]
  | (name, node) :: entries => by
    rw [namesBelow, List.mem_append, List.mem_map, mem_namesBelow_iff top path names entries]
    constructor
    · rintro (⟨rest, hrest, rfl⟩ | ⟨name', child, rest, rfl, hentry, h⟩)
      · exact ⟨name, node, rest, rfl, List.mem_cons_self,
          (mem_namesAt_iff top (Path.join path name) rest node).mp hrest⟩
      · exact ⟨name', child, rest, rfl, List.mem_cons_of_mem _ hentry, h⟩
    · rintro ⟨name', child, rest, rfl, hentry, h⟩
      rcases List.mem_cons.mp hentry with heq | hentry
      · obtain ⟨hname, hchild⟩ := Prod.mk.inj heq
        rw [hname, hchild] at h
        rw [hname]
        exact .inl ⟨rest, (mem_namesAt_iff top (Path.join path name) rest node).mpr h, rfl⟩
      · exact .inr ⟨name', child, rest, rfl, hentry, h⟩
termination_by structural entries => entries

end

mutual

/-- Where names stand in ascending order in each directory, the files do so component by
component. -/
theorem pairwise_namesAt (top : Node) (path : String) : (node : Node) → node.WellFormed →
    (namesAt top path node).Pairwise (· < ·)
  | .file bytes, _ => by
    rw [namesAt]
    exact List.pairwise_singleton _ _
  | .link target, _ => by
    rw [namesAt]
    split
    · exact List.pairwise_singleton _ _
    · exact List.Pairwise.nil
  | .dir entries, h => by
    rw [namesAt]
    cases h with
    | dir ascending _ nodes => exact pairwise_namesBelow top path entries ascending nodes

theorem pairwise_namesBelow (top : Node) (path : String) : (entries : List (String × Node)) →
    Ascending entries → (∀ e ∈ entries, e.2.WellFormed) →
    (namesBelow top path entries).Pairwise (· < ·)
  | [], _, _ => List.Pairwise.nil
  | (name, node) :: entries, ascending, nodes => by
    obtain ⟨hbefore, hrest⟩ := List.pairwise_cons.mp ascending
    have hnode := pairwise_namesAt top (Path.join path name) node (nodes _ List.mem_cons_self)
    have hentries := pairwise_namesBelow top path entries hrest
      fun e he => nodes e (List.mem_cons_of_mem _ he)
    rw [namesBelow, List.pairwise_append]
    refine ⟨List.pairwise_map.mpr (hnode.imp fun h => ?_), hentries, ?_⟩
    · exact List.cons_lt_cons_iff.mpr (.inr ⟨rfl, h⟩)
    · intro a ha b hb
      obtain ⟨rest, -, rfl⟩ := List.mem_map.mp ha
      obtain ⟨name', child, rest', rfl, hentry, -⟩ := (mem_namesBelow_iff top path b entries).mp hb
      exact List.cons_lt_cons_iff.mpr (.inl (hbefore _ hentry))

end

/-! ### Paths in the order of the walk -/

mutual

/-- Ignore files only leave out: what a walk visits are some of the files, in their order, each by
the path that its names spell. -/
theorem filesAt_sublist (top : Node) (gitignore : Bool) (levels : List (List IgnoreRule))
    (names : List String) (path : String) : (node : Node) →
    (filesAt top gitignore levels names path node).filterMap Except.toOption |>.Sublist
      ((namesAt top path node).map (Path.descend path))
  | .file bytes => by
    rw [filesAt, namesAt]
    exact List.Sublist.refl _
  | .link target => by
    rw [filesAt, namesAt]
    split
    · exact List.Sublist.refl _
    · exact List.Sublist.refl _
  | .dir entries => by
    rw [filesAt, namesAt]
    split
    · exact List.nil_sublist _
    · exact filesBelow_sublist top gitignore _ names path entries

theorem filesBelow_sublist (top : Node) (gitignore : Bool) (levels : List (List IgnoreRule))
    (names : List String) (path : String) : (entries : List (String × Node)) →
    (filesBelow top gitignore levels names path entries).filterMap Except.toOption |>.Sublist
      ((namesBelow top path entries).map (Path.descend path))
  | [] => by
    rw [filesBelow, namesBelow]
    exact List.Sublist.refl _
  | (name, node) :: entries => by
    rw [filesBelow, namesBelow, List.filterMap_append, List.map_append, List.map_map]
    refine List.Sublist.append ?_ (filesBelow_sublist top gitignore levels names path entries)
    split
    · exact List.nil_sublist _
    · exact filesAt_sublist top gitignore levels (name :: names) (Path.join path name) node

end

theorem isIgnored_nil (isDir : Bool) (names : List String) :
    IgnoreRule.isIgnored [] isDir names = false := rfl

mutual

/-- What a walk comes upon with ignore files, faults included, it also comes upon without. -/
theorem filesAt_sublist_plain (top : Node) (gitignore : Bool) (levels : List (List IgnoreRule))
    (names : List String) (path : String) : (node : Node) →
    (filesAt top gitignore levels names path node).Sublist (filesAt top false [] names path node)
  | .file bytes => by
    rw [filesAt, filesAt]
  | .link target => by
    rw [filesAt, filesAt]
  | .dir entries => by
    rw [filesAt, filesAt]
    split
    · exact List.Sublist.refl _
    · exact filesBelow_sublist_plain top gitignore _ names path entries

theorem filesBelow_sublist_plain (top : Node) (gitignore : Bool) (levels : List (List IgnoreRule))
    (names : List String) (path : String) : (entries : List (String × Node)) →
    (filesBelow top gitignore levels names path entries).Sublist
      (filesBelow top false [] names path entries)
  | [] => by
    rw [filesBelow, filesBelow]
  | (name, node) :: entries => by
    rw [filesBelow, filesBelow, isIgnored_nil, if_neg Bool.false_ne_true]
    refine List.Sublist.append ?_ (filesBelow_sublist_plain top gitignore levels names path entries)
    split
    · exact List.nil_sublist _
    · exact filesAt_sublist_plain top gitignore levels (name :: names) (Path.join path name) node

end

mutual

/-- Without ignore files a walk that meets no fault visits all files. -/
theorem filesAt_eq (top : Node) (names : List String) (path : String) : (node : Node) →
    (∀ fault, .error fault ∉ filesAt top false [] names path node) →
    filesAt top false [] names path node =
      (namesAt top path node).map fun below => .ok (Path.descend path below)
  | .file bytes, _ => by
    rw [filesAt, namesAt]
    rfl
  | .link target, _ => by
    rw [filesAt, namesAt]
    split
    · rfl
    · rfl
  | .dir entries, h => by
    rw [filesAt] at h ⊢
    rw [namesAt]
    split
    · rename_i hlong
      rw [if_pos hlong] at h
      exact absurd (List.mem_singleton.mpr rfl) (h .nameTooLong)
    · rename_i hlong
      rw [if_neg hlong] at h
      exact filesBelow_eq top names path entries h

theorem filesBelow_eq (top : Node) (names : List String) (path : String) :
    (entries : List (String × Node)) →
    (∀ fault, .error fault ∉ filesBelow top false [] names path entries) →
    filesBelow top false [] names path entries =
      (namesBelow top path entries).map fun below => .ok (Path.descend path below)
  | [], _ => by
    rw [filesBelow, namesBelow]
    rfl
  | (name, node) :: entries, h => by
    rw [filesBelow, isIgnored_nil, if_neg Bool.false_ne_true] at h ⊢
    rw [namesBelow, List.map_append, List.map_map,
      filesAt_eq top (name :: names) (Path.join path name) node
        fun fault hf => h fault (List.mem_append_left _ hf),
      filesBelow_eq top names path entries fun fault hf => h fault (List.mem_append_right _ hf)]
    rfl

end

/-! ### Ignore files above the root -/

/-- In a directory above the one that a root leads to, the ignore file has a malformed line. The way
to the latter without links must not be too long to be asked for. -/
inductive FaultAbove (top : Node) (root : String) : Prop
  | intro {place : FileTree.Place} {names below : List String} {bytes : List UInt8}
      {line : List Char} {fault : Glob.Fault}
      (resolved : FileTree.resolve top root = .ok place) (isDir : place.node.isDir = true)
      (short : FileTree.isTooLong ("/" ++ Path.ofSegments place.names) = false)
      (above : place.names = names ++ below) (strict : below ≠ [])
      (read : FileTree.bytesAt top (Path.join ("/" ++ Path.ofSegments names) ".gitignore") =
        .ok bytes)
      (mem : line ∈ IgnoreRule.linesOf bytes) (malformed : IgnoreRule.readLine line = .error fault)

/-- The directories above a place are those that some of its names lead to, but not all. -/
theorem mem_dirsAbove_iff (place : FileTree.Place) (dir : String) :
    dir ∈ dirsAbove place ↔
      ∃ names below, place.names = names ++ below ∧ below ≠ [] ∧
        dir = "/" ++ Path.ofSegments names := by
  have hnames : place.names = (namesUp place).reverse := by
    rw [FileTree.Place.names, namesUp, List.map_reverse]
  rw [dirsAbove, List.mem_reverse, List.mem_map, hnames]
  constructor
  · intro ⟨up, hup, hdir⟩
    obtain ⟨below, hne, heq⟩ := (Search.mem_tail_ancestors_iff _ _).mp hup
    refine ⟨up.reverse, below.reverse, ?_, by simpa using hne, hdir.symm⟩
    rw [heq, List.reverse_append]
  · intro ⟨names, below, heq, hne, hdir⟩
    refine ⟨names.reverse, (Search.mem_tail_ancestors_iff _ _).mpr ?_, ?_⟩
    · refine ⟨below.reverse, by simpa using hne, ?_⟩
      rw [← List.reverse_append, ← heq, List.reverse_reverse]
    · rw [Path.ofNames, List.reverse_reverse, hdir]

/-- There is a fault in a directory just if its ignore file can be read and has a malformed line. -/
theorem faultIn?_isSome_iff (top : Node) (dir : String) :
    (IgnoreRule.faultIn? top dir).isSome = true ↔
      ∃ bytes, FileTree.bytesAt top (Path.join dir ".gitignore") = .ok bytes ∧
        ∃ line ∈ IgnoreRule.linesOf bytes, ∃ fault, IgnoreRule.readLine line = .error fault := by
  rw [IgnoreRule.faultIn?, IgnoreRule.fileName]
  cases FileTree.bytesAt top (Path.join dir ".gitignore") with
  | error fault => simp
  | ok bytes =>
    have hline : ∀ line, (IgnoreRule.lineFault? line).isSome = true ↔
        ∃ fault, IgnoreRule.readLine line = .error fault := by
      intro line
      rw [IgnoreRule.lineFault?]
      cases IgnoreRule.readLine line <;> simp
    simp [List.findSome?_isSome_iff, hline]

/-- A walk looks for such a line where the root is a directory, and finds it if there is one. -/
theorem faultAbove_iff {top : Node} {root : String} {place : FileTree.Place}
    (hroot : FileTree.resolve top root = .ok place) :
    FaultAbove top root ↔
      place.node.isDir = true ∧ (faultAbove? top place).isSome = true := by
  have hpath : Path.ofNames (namesUp place) = "/" ++ Path.ofSegments place.names := by
    rw [Path.ofNames, FileTree.Place.names, namesUp, List.map_reverse]
  rw [faultAbove?, hpath]
  constructor
  · rintro ⟨resolved, isDir, short, above, strict, read, mem, malformed⟩
    obtain rfl := Except.ok.inj (hroot.symm.trans resolved)
    refine ⟨isDir, ?_⟩
    rw [if_neg (by rw [short]; exact Bool.false_ne_true), List.findSome?_isSome_iff]
    exact ⟨_, (mem_dirsAbove_iff _ _).mpr ⟨_, _, above, strict, rfl⟩,
      (faultIn?_isSome_iff _ _).mpr ⟨_, read, _, mem, _, malformed⟩⟩
  · rintro ⟨isDir, hfault⟩
    split at hfault
    · cases hfault
    · rename_i short
      obtain ⟨dir, hdir, hfault⟩ := List.findSome?_isSome_iff.mp hfault
      obtain ⟨names, below, above, strict, rfl⟩ := (mem_dirsAbove_iff _ _).mp hdir
      obtain ⟨bytes, read, line, mem, fault, malformed⟩ := (faultIn?_isSome_iff _ _).mp hfault
      exact .intro hroot isDir (Bool.eq_false_iff.mpr short) above strict read mem malformed

/-! ### Whole walks -/

/-- What stands ahead of the files is no file. -/
theorem ok_mem_files_iff {top : Node} {root : String} {gitignore : Bool} {place : FileTree.Place}
    (hroot : FileTree.resolve top root = .ok place) (path : String) :
    .ok path ∈ files top root gitignore ↔
      .ok path ∈ filesAt top gitignore [] [] root place.node := by
  have hahead : Except.ok path ∉ ahead top gitignore place := by
    rw [ahead]
    split
    · split <;> simp
    · simp
  rw [files, hroot]
  simp [hahead]

/-- A malformed line above the root is a fault in front of everything that a walk comes upon. -/
theorem files_of_faultAbove {top : Node} {root : String} (h : FaultAbove top root) :
    ∃ fault later, files top root true = .error fault :: later := by
  obtain ⟨place, hroot⟩ : ∃ place, FileTree.resolve top root = .ok place := by
    cases h with
    | intro resolved => exact ⟨_, resolved⟩
  obtain ⟨hdir, hfault⟩ := (faultAbove_iff hroot).mp h
  obtain ⟨fault, hfault⟩ := Option.isSome_iff_exists.mp hfault
  refine ⟨.other fault.message, filesAt top true [] [] root place.node, ?_⟩
  rw [files, hroot]
  simp [ahead, hdir, hfault]

/-- Without such a line a walk comes upon nothing, faults included, that it does not come upon
without ignore files. -/
theorem files_sublist_plain {top : Node} {root : String} (h : ¬ FaultAbove top root) :
    (files top root true).Sublist (files top root false) := by
  rw [files, files]
  cases hroot : FileTree.resolve top root with
  | error fault => exact List.Sublist.refl _
  | ok place =>
    have hahead : ahead top true place = [] := by
      rw [faultAbove_iff hroot, not_and, Bool.not_eq_true, Option.isSome_eq_false_iff,
        Option.isNone_iff_eq_none] at h
      rw [ahead, Bool.true_and]
      split
      · rename_i hdir
        rw [h hdir]
      · rfl
    show (ahead top true place ++ _).Sublist (filesAt top false [] [] root place.node)
    rw [hahead]
    exact filesAt_sublist_plain top true [] [] root place.node

theorem files_ok {top : Node} {root : String} {gitignore : Bool} {paths : List String}
    (h : files top root gitignore = paths.map .ok) :
    ∃ place, FileTree.resolve top root = .ok place := by
  rw [files] at h
  cases hroot : FileTree.resolve top root with
  | error fault =>
    rw [hroot] at h
    cases paths <;> simp at h
  | ok place => exact ⟨place, rfl⟩

/-- Without ignore files a walk that meets no fault visits all files below the root. -/
theorem files_eq {top : Node} {root : String} {paths : List String}
    (h : files top root false = paths.map .ok) :
    ∃ place, FileTree.resolve top root = .ok place ∧
      paths = (namesAt top root place.node).map (Path.descend root) := by
  obtain ⟨place, hroot⟩ := files_ok h
  have hfiles : filesAt top false [] [] root place.node = paths.map .ok := by
    rw [files, hroot] at h
    exact h
  have hok : ∀ fault, .error fault ∉ filesAt top false [] [] root place.node := by
    intro fault hf
    rw [hfiles] at hf
    obtain ⟨p, -, hp⟩ := List.mem_map.mp hf
    simp at hp
  rw [filesAt_eq top [] root place.node hok] at hfiles
  refine ⟨place, hroot, ?_⟩
  have hpaths := congrArg (List.filterMap Except.toOption) hfiles
  simpa [List.filterMap_map, Function.comp_def, Except.toOption] using hpaths.symm

/-- The names that a walk goes by are those that lead to a file. -/
theorem mem_namesAt_iff_fileBelow {top : Node} {root : String} {place : FileTree.Place}
    (hroot : FileTree.resolve top root = .ok place) (names : List String) :
    names ∈ namesAt top root place.node ↔ ∃ bytes, FileBelow top root names bytes := by
  rw [mem_namesAt_iff]
  constructor
  · rintro ⟨found, hleads, hregular⟩
    cases found with
    | file bytes => exact ⟨bytes, .file hroot hleads⟩
    | link target =>
      obtain ⟨bytes, hread⟩ := FileTree.isFile_iff.mp hregular
      exact ⟨bytes, .link hroot hleads hread⟩
    | dir entries => exact absurd hregular id
  · rintro ⟨bytes, ⟨hroot', hleads⟩ | ⟨hroot', hleads, hread⟩⟩
    · rw [hroot] at hroot'
      obtain rfl := Except.ok.inj hroot'
      exact ⟨_, hleads, trivial⟩
    · rw [hroot] at hroot'
      obtain rfl := Except.ok.inj hroot'
      exact ⟨_, hleads, FileTree.isFile_iff.mpr ⟨bytes, hread⟩⟩

end Walk

/-- What is read by the path that names spell are the bytes of the file that they lead to. -/
theorem FileBelow.of_bytesAt {top : Node} (hwf : top.WellFormed) {root : String}
    {names : List String} {bytes read : List UInt8} (h : FileBelow top root names bytes)
    (hread : FileTree.bytesAt top (Path.descend root names) = .ok read) : read = bytes := by
  cases h with
  | file hroot hleads =>
    rw [FileTree.bytesAt_descend hwf hroot hleads] at hread
    split at hread
    · simp at hread
    · exact (Except.ok.inj hread).symm
  | link hroot hleads hread' =>
    rw [hread'] at hread
    exact (Except.ok.inj hread).symm

/-- A root below which there is a file is no empty path. -/
theorem FileBelow.root_ne_empty {top : Node} {root : String} {names : List String}
    {bytes : List UInt8} (h : FileBelow top root names bytes) : root ≠ "" := by
  cases h with
  | file hroot _ => exact (FileTree.resolve_ok hroot).2.1
  | link hroot _ _ => exact (FileTree.resolve_ok hroot).2.1

/-- The names that lead to a file are file names. -/
theorem FileBelow.isFileName {top : Node} (hwf : top.WellFormed) {root : String}
    {names : List String} {bytes : List UInt8} (h : FileBelow top root names bytes) :
    ∀ n ∈ names, Path.IsFileName n := by
  cases h with
  | file hroot hleads => exact hleads.isFileName (FileTree.resolve_wellFormed hwf hroot).node
  | link hroot hleads _ => exact hleads.isFileName (FileTree.resolve_wellFormed hwf hroot).node

end TemplateCheck
