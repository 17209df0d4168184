import TemplateCheck.FileTree.Basic
import TemplateCheck.Proofs.KeyMap
import TemplateCheck.Proofs.Path.Descend

/-!
# Reading by path what a tree holds

* `Node.WellFormed` — a tree as file systems hold them: the names in a directory are file names, and
  stand in ascending order;
* `Leads` — some names lead from one node to another one, through directories alone;
* `follow_append` — a way can be followed in two parts: the first one uses up some links;
* `resolve_descend`, `bytesAt_descend` — the path made of a root and such names leads to that node,
  unless it is too long.
-/

namespace TemplateCheck.FileTree

/-! ### Trees -/

/-- A tree as file systems hold them. -/
inductive Node.WellFormed : Node → Prop
  | file (bytes : List UInt8) : WellFormed (.file bytes)
  | link (target : String) : WellFormed (.link target)
  | dir {entries : List (String × Node)} (ascending : Ascending entries)
      (names : ∀ e ∈ entries, Path.IsFileName e.1 ∧ e.1.utf8ByteSize ≤ maxName)
      (nodes : ∀ e ∈ entries, e.2.WellFormed) : WellFormed (.dir entries)

mutual

/-- Is a node as file systems hold it? -/
def Node.isWellFormed : Node → Bool
  | .file _ => true
  | .link _ => true
  | .dir entries => decide (Ascending entries) && Node.areWellFormed entries

/-- Are the entries of a directory, each by itself? -/
def Node.areWellFormed : List (String × Node) → Bool
  | [] => true
  | (name, node) :: rest =>
    decide (Path.IsFileName name ∧ name.utf8ByteSize ≤ maxName) && node.isWellFormed &&
      Node.areWellFormed rest

end

mutual

theorem Node.isWellFormed_iff : (node : Node) → (node.isWellFormed = true ↔ node.WellFormed)
  | .file bytes => by simp [Node.isWellFormed, Node.WellFormed.file]
  | .link target => by simp [Node.isWellFormed, Node.WellFormed.link]
  | .dir entries => by
    rw [Node.isWellFormed, Bool.and_eq_true, decide_eq_true_iff, Node.areWellFormed_iff entries]
    constructor
    · rintro ⟨ascending, h⟩
      exact .dir ascending (fun e he => (h e he).1) fun e he => (h e he).2
    · intro h
      cases h with
      | dir ascending names nodes => exact ⟨ascending, fun e he => ⟨names e he, nodes e he⟩⟩

theorem Node.areWellFormed_iff : (entries : List (String × Node)) →
    (Node.areWellFormed entries = true ↔
      ∀ e ∈ entries, (Path.IsFileName e.1 ∧ e.1.utf8ByteSize ≤ maxName) ∧ e.2.WellFormed)
  | [] => by simp [Node.areWellFormed]
  | (name, node) :: rest => by
    rw [Node.areWellFormed, Bool.and_eq_true, Bool.and_eq_true, decide_eq_true_iff,
      Node.isWellFormed_iff node, Node.areWellFormed_iff rest, List.forall_mem_cons]

end

instance (node : Node) : Decidable node.WellFormed :=
  decidable_of_iff _ node.isWellFormed_iff

/-- Names that lead from a node to another one, each the name of a directory on the way, except the
last one, which is that of the other node. -/
inductive Leads : Node → List String → Node → Prop
  | here (node : Node) : Leads node [] node
  | down {entries : List (String × Node)} {name : String} {child : Node} {names : List String}
      {found : Node} (entry : (name, child) ∈ entries) (rest : Leads child names found) :
      Leads (.dir entries) (name :: names) found

theorem Node.WellFormed.child {entries : List (String × Node)} {name : String} {child : Node}
    (h : (Node.dir entries).WellFormed) (hmem : (name, child) ∈ entries) :
    Path.IsFileName name ∧ name.utf8ByteSize ≤ maxName ∧ child.WellFormed ∧
      entries.lookup name = some child := by
  cases h with
  | dir ascending names nodes =>
    obtain ⟨hname, hshort⟩ := names _ hmem
    have hlookup := lookup_of_mem (nodup_keys_of_ascending ascending) hmem
    exact ⟨hname, hshort, nodes _ hmem, hlookup⟩

theorem Leads.eq_of_nil {node found : Node} (h : Leads node [] found) : found = node := by
  cases h
  rfl

theorem Leads.isFileName {node found : Node} {names : List String} (h : Leads node names found)
    (hwf : node.WellFormed) : ∀ n ∈ names, Path.IsFileName n := by
  induction h with
  | here node => simp
  | down entry _ ih =>
    obtain ⟨hname, -, hchild, -⟩ := hwf.child entry
    intro n hn
    rcases List.mem_cons.mp hn with rfl | hn
    · exact hname
    · exact ih hchild n hn

/-- Names lead to one node at most. -/
theorem Leads.unique {node found found' : Node} {names : List String} (h : Leads node names found)
    (hwf : node.WellFormed) (h' : Leads node names found') : found = found' := by
  induction h with
  | here node => exact h'.eq_of_nil.symm
  | down entry _ ih =>
    obtain ⟨-, -, hchild, hlookup⟩ := hwf.child entry
    cases h' with
    | down entry' rest' =>
      have hsame := hlookup.symm.trans (hwf.child entry').2.2.2
      obtain rfl := Option.some.inj hsame
      exact ih hchild rest'

/-! ### Following in two parts -/

theorem stretch_append (place : Place) (pieces rest : List String) :
    stretch place (pieces ++ rest) =
      match stretch place pieces with
      | .error fault => .error fault
      | .ok (.arrived place) => stretch place rest
      | .ok (.atLink place target left) => .ok (.atLink place target (left ++ rest)) := by
  induction pieces generalizing place with
  | nil => simp [stretch]
  | cons piece pieces ih =>
    rw [List.cons_append, stretch, stretch]
    cases place.node with
    | file bytes => rfl
    | link target => rfl
    | dir entries =>
      simp only
      split
      · exact ih place
      · split
        · exact ih place.up
        · split
          · rfl
          · cases entries.lookup piece with
            | none => rfl
            | some node =>
              cases node with
              | link target => rfl
              | file bytes => exact ih _
              | dir entries => exact ih _

/-- A way leads nowhere whatever comes after it, or to a place from which the rest is followed with
the links that are left. -/
theorem follow_append (top : Node) (links : Nat) (place : Place) (pieces : List String) :
    (∃ fault, ∀ rest, follow top links place (pieces ++ rest) = .error fault) ∨
      ∃ left found, ∀ rest,
        follow top links place (pieces ++ rest) = follow top left found rest := by
  cases h : stretch place pieces with
  | error fault =>
    refine .inl ⟨fault, fun rest => ?_⟩
    rw [follow.eq_def, stretch_append, h]
  | ok result =>
    cases result with
    | arrived found =>
      refine .inr ⟨links, found, fun rest => ?_⟩
      rw [follow.eq_def, stretch_append, h]
      exact (follow.eq_def top links found rest).symm
    | atLink found target left =>
      cases links with
      | zero =>
        refine .inl ⟨.tooManyLinks, fun rest => ?_⟩
        rw [follow, stretch_append, h]
      | succ links =>
        by_cases htarget : target = ""
        · refine .inl ⟨.notFound, fun rest => ?_⟩
          rw [follow, stretch_append, h]
          simp [htarget]
        · -- behind the link, the segments of its text come before what was left
          have hstep (rest : List String) :
              follow top (links + 1) place (pieces ++ rest) =
                follow top links (if Path.isAbsolute target then ⟨[], top⟩ else found)
                  ((Path.segments target ++ left) ++ rest) := by
            rw [follow, stretch_append, h]
            simp [htarget]
          simp only [hstep]
          exact follow_append top links _ _

/-- Every node at or above a place is well formed. -/
structure Place.WellFormed (place : Place) : Prop where
  node : place.node.WellFormed
  above : ∀ a ∈ place.above, (Node.dir a.2).WellFormed

theorem Place.WellFormed.up {place : Place} (h : place.WellFormed) : place.up.WellFormed := by
  obtain ⟨above, node⟩ := place
  cases above with
  | nil => exact h
  | cons a above =>
    refine ⟨h.above a List.mem_cons_self, fun b hb => ?_⟩
    exact h.above b (List.mem_cons_of_mem _ hb)

theorem Place.WellFormed.down {place : Place} {entries : List (String × Node)} {name : String}
    {child : Node} (h : place.WellFormed) (hnode : place.node = .dir entries)
    (hmem : (name, child) ∈ entries) :
    Place.WellFormed ⟨(name, entries) :: place.above, child⟩ := by
  have hdir : (Node.dir entries).WellFormed := hnode ▸ h.node
  refine ⟨(hdir.child hmem).2.2.1, fun a ha => ?_⟩
  rcases List.mem_cons.mp ha with rfl | ha
  · exact hdir
  · exact h.above a ha

/-- The place that a way without links ends at. -/
def Stretch.place : Stretch → Place
  | .arrived place => place
  | .atLink place _ _ => place

theorem stretch_wellFormed {place : Place} {pieces : List String} {result : Stretch}
    (hwf : place.WellFormed) (h : stretch place pieces = .ok result) :
    result.place.WellFormed := by
  induction pieces generalizing place with
  | nil =>
    rw [stretch] at h
    obtain rfl := Except.ok.inj h
    exact hwf
  | cons piece pieces ih =>
    rw [stretch] at h
    cases hnode : place.node with
    | file bytes => rw [hnode] at h; simp at h
    | link target => rw [hnode] at h; simp at h
    | dir entries =>
      rw [hnode] at h
      simp only at h
      split at h
      · exact ih hwf h
      · split at h
        · exact ih hwf.up h
        · split at h
          · simp at h
          · cases hlookup : entries.lookup piece with
            | none => rw [hlookup] at h; simp at h
            | some node =>
              rw [hlookup] at h
              have hdown := hwf.down hnode (mem_of_lookup hlookup)
              cases node with
              | link target =>
                obtain rfl := Except.ok.inj h
                exact hwf
              | file bytes => exact ih hdown h
              | dir entries => exact ih hdown h

theorem follow_wellFormed {top : Node} (htop : top.WellFormed) {links : Nat} {place found : Place}
    {pieces : List String} (hwf : place.WellFormed)
    (h : follow top links place pieces = .ok found) : found.WellFormed := by
  rw [follow.eq_def] at h
  cases hs : stretch place pieces with
  | error fault => rw [hs] at h; simp at h
  | ok result =>
    have hresult := stretch_wellFormed hwf hs
    rw [hs] at h
    cases result with
    | arrived q =>
      obtain rfl := Except.ok.inj h
      exact hresult
    | atLink q target left =>
      cases links with
      | zero => simp at h
      | succ links =>
        simp only at h
        split at h
        · simp at h
        · refine follow_wellFormed htop ?_ h
          split
          · exact ⟨htop, by simp⟩
          · exact hresult
termination_by links

/-! ### Names that lead to a node -/

/-- Names that lead to a node other than a link are followed without links. -/
theorem stretch_of_leads {node found : Node} {names : List String} (h : Leads node names found)
    (hwf : node.WellFormed) (hlink : ∀ target, found ≠ .link target)
    (above : List (String × List (String × Node))) :
    ∃ above', stretch ⟨above, node⟩ names = .ok (.arrived ⟨above', found⟩) := by
  induction h generalizing above with
  | here node => exact ⟨above, rfl⟩
  | @down entries name child names found entry rest ih =>
    obtain ⟨hname, hshort, hchild, hlookup⟩ := hwf.child entry
    obtain ⟨above', hrest⟩ := ih hchild hlink ((name, entries) :: above)
    refine ⟨above', ?_⟩
    rw [stretch]
    simp only [hname.ne_empty, hname.ne_current, hname.ne_parent, or_self, if_false, hlookup,
      if_neg (Nat.not_lt.mpr hshort)]
    cases child with
    | link target =>
      -- nothing lies below a link, so the link itself would be what is found
      cases rest with
      | here => exact absurd rfl (hlink target)
    | file bytes => exact hrest
    | dir entries => exact hrest

theorem resolve_ok {top : Node} {root : String} {place : Place}
    (hroot : resolve top root = .ok place) :
    '\x00' ∉ root.toList ∧ root ≠ "" ∧ isTooLong root = false ∧
      follow top maxLinks ⟨[], top⟩ (Path.segments root) = .ok place := by
  rw [resolve] at hroot
  split at hroot
  · simp at hroot
  · rename_i hnul
    split at hroot
    · simp at hroot
    · rename_i hempty
      split at hroot
      · simp at hroot
      · rename_i hlong
        refine ⟨?_, hempty, by simpa using hlong, hroot⟩
        simpa using hnul

/-- Where a root leads, its way can be gone on with names. -/
theorem follow_root {top : Node} {root : String} {place : Place}
    (hroot : resolve top root = .ok place) :
    ∃ left, ∀ names, follow top maxLinks ⟨[], top⟩ (Path.rootSegments root ++ names) =
      follow top left place names := by
  have hfollow := (resolve_ok hroot).2.2.2
  rcases follow_append top maxLinks ⟨[], top⟩ (Path.rootSegments root) with
    ⟨fault, herror⟩ | ⟨left, found, hfound⟩
  · rcases Path.segments_eq_rootSegments root with hs | hs
    · rw [hs, ← List.append_nil (Path.rootSegments root), herror] at hfollow
      simp at hfollow
    · rw [hs, herror] at hfollow
      simp at hfollow
  · refine ⟨left, fun names => ?_⟩
    suffices hsame : found = place by rw [hfound, hsame]
    rcases Path.segments_eq_rootSegments root with hs | hs
    · rw [hs, ← List.append_nil (Path.rootSegments root), hfound, follow] at hfollow
      exact Except.ok.inj hfollow
    · -- a slash at the end of the root asks for a directory, and stays there
      rw [hs, hfound, follow, stretch] at hfollow
      cases hnode : found.node with
      | file bytes => rw [hnode] at hfollow; simp at hfollow
      | link target => rw [hnode] at hfollow; simp at hfollow
      | dir entries =>
        rw [hnode] at hfollow
        simpa [stretch] using hfollow

theorem resolve_wellFormed {top : Node} (hwf : top.WellFormed) {root : String} {place : Place}
    (hroot : resolve top root = .ok place) : place.WellFormed :=
  follow_wellFormed hwf ⟨hwf, by simp⟩ (resolve_ok hroot).2.2.2

/-- The path made of a root and of names that lead to a node leads to that node, unless the path is
too long. -/
theorem resolve_descend {top : Node} (hwf : top.WellFormed) {root : String} {place : Place}
    (hroot : resolve top root = .ok place) {names : List String} {found : Node}
    (h : Leads place.node names found) (hlink : ∀ target, found ≠ .link target) :
    ∃ above, resolve top (Path.descend root names) =
      if isTooLong (Path.descend root names) then .error .nameTooLong
      else .ok ⟨above, found⟩ := by
  obtain ⟨hnul, hempty, hlong, -⟩ := resolve_ok hroot
  have hplace := (resolve_wellFormed hwf hroot).node
  have hnames := h.isFileName hplace
  have hnormal := Path.isNormal_of_isFileName hnames
  cases names with
  | nil =>
    obtain rfl := h.eq_of_nil
    refine ⟨place.above, ?_⟩
    rw [Path.descend, List.foldl_nil, hroot, hlong]
    rfl
  | cons name names =>
    obtain ⟨left, hleft⟩ := follow_root hroot
    obtain ⟨above, hstretch⟩ := stretch_of_leads h hplace hlink place.above
    have hfollow : follow top maxLinks ⟨[], top⟩
        (Path.segments (Path.descend root (name :: names))) = .ok ⟨above, found⟩ := by
      rw [Path.segments_descend hempty hnormal, hleft, follow, hstretch]
    refine ⟨above, ?_⟩
    have hnul' : '\x00' ∉ (Path.descend root (name :: names)).toList := by
      intro hmem
      rcases Path.mem_descend (by decide) hempty hnormal hmem with hmem | ⟨n, hn, hmem⟩
      · exact hnul hmem
      · exact (hnames n hn).no_nul hmem
    have hempty' : Path.descend root (name :: names) ≠ "" := by
      rw [Path.descend_cons_eq_below hempty hnormal]
      exact Path.below_ne_empty _ _
    rw [resolve, if_neg (by simpa using hnul'), if_neg hempty', hfollow]

/-- By such a path the bytes of a file are read, unless the path is too long. -/
theorem bytesAt_descend {top : Node} (hwf : top.WellFormed) {root : String} {place : Place}
    (hroot : resolve top root = .ok place) {names : List String} {bytes : List UInt8}
    (h : Leads place.node names (.file bytes)) :
    bytesAt top (Path.descend root names) =
      if isTooLong (Path.descend root names) then .error .nameTooLong else .ok bytes := by
  obtain ⟨above, hresolve⟩ := resolve_descend hwf hroot h (by simp)
  rw [bytesAt, hresolve]
  split
  · rfl
  · rfl

/-- What is a regular file can be read. -/
theorem isFile_iff {top : Node} {path : String} :
    isFile top path = true ↔ ∃ bytes, bytesAt top path = .ok bytes := by
  rw [isFile, bytesAt]
  cases resolve top path with
  | error fault => simp [bind, Except.bind]
  | ok place =>
    obtain ⟨above, node⟩ := place
    cases node <;> simp [bind, Except.bind, pure, Except.pure]

end TemplateCheck.FileTree
