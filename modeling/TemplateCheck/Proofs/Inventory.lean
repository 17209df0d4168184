import TemplateCheck.Proofs.Success
import TemplateCheck.Proofs.Path.RelativeName
import TemplateCheck.Proofs.Walk

/-!
# The files below a root

What lies below a root is told without any walk, by an inventory: every file with its names and its
bytes, in the order in which the bytes of the names stand.

* `Inventory` — all files below a root, in component-wise order;
* `Inventory.paths_eq` — a walk without ignore files that meets no fault goes through it;
* `exists_inventory` — every root that leads somewhere has one;
* `takeInventory` — it is computed by reading each file, if each can be read.
-/

namespace TemplateCheck

open FileTree (Node Leads)

/-- A file below a root: the names that lead to it, and its bytes. -/
abbrev Found := List String × List UInt8

/-- The regular files below a root, links to regular files included: each of them once, with its
bytes, in component-wise ascending order of the bytes of the names that lead to it. -/
structure Inventory (top : Node) (root : String) (files : List Found) : Prop where
  mem_iff : ∀ names bytes, (names, bytes) ∈ files ↔ FileBelow top root names bytes
  ascending : files.Pairwise fun a b =>
    a.1.map Text.Utf8.encode < b.1.map Text.Utf8.encode

/-- Names that lead to a file lead to one file. -/
theorem FileBelow.unique {top : Node} (hwf : top.WellFormed) {root : String}
    {names : List String} {bytes bytes' : List UInt8} (h : FileBelow top root names bytes)
    (h' : FileBelow top root names bytes') : bytes = bytes' := by
  rcases h with @⟨place, hroot, hleads⟩ | @⟨place, target, hroot, hleads, hread⟩ <;>
    rcases h' with @⟨place', hroot', hleads'⟩ | @⟨place', target', hroot', hleads', hread'⟩ <;>
    obtain rfl := Except.ok.inj (hroot.symm.trans hroot') <;>
    have hsame := hleads.unique (FileTree.resolve_wellFormed hwf hroot).node hleads'
  · exact Node.file.inj hsame
  · exact absurd hsame (by simp)
  · exact absurd hsame (by simp)
  · exact Except.ok.inj (hread.symm.trans hread')

namespace Walk

/-- What the files of a walk are compared by. -/
def before (a b : List String) : Prop :=
  a.map Text.Utf8.encode < b.map Text.Utf8.encode

instance : Std.Irrefl before := ⟨fun _ h => List.lt_irrefl _ h⟩

instance : Std.Asymm before := ⟨fun _ _ h h' => List.lt_asymm h h'⟩

/-- A walk goes by the names in the order of their bytes. -/
theorem pairwise_before_namesAt (top : Node) (root : String) {node : Node}
    (hwf : node.WellFormed) : (namesAt top root node).Pairwise before :=
  (pairwise_namesAt top root node hwf).imp Text.Utf8.map_encode_lt_map_encode

end Walk

variable {top : Node} {root : String}

/-- The names of an inventory are those that a walk goes by. -/
theorem Inventory.names_eq (hwf : top.WellFormed) {files : List Found}
    (h : Inventory top root files) {place : FileTree.Place}
    (hroot : FileTree.resolve top root = .ok place) :
    files.map Prod.fst = Walk.namesAt top root place.node := by
  have hplace := (FileTree.resolve_wellFormed hwf hroot).node
  refine List.Pairwise.eq_of_mem_iff (r := Walk.before) (List.pairwise_map.mpr h.ascending)
    (Walk.pairwise_before_namesAt top root hplace) fun names => ?_
  rw [Walk.mem_namesAt_iff_fileBelow hroot, List.mem_map]
  constructor
  · rintro ⟨⟨_, bytes⟩, hmem, rfl⟩
    exact ⟨bytes, (h.mem_iff _ _).mp hmem⟩
  · rintro ⟨bytes, hfile⟩
    exact ⟨(names, bytes), (h.mem_iff _ _).mpr hfile, rfl⟩

/-- Without ignore files a walk that meets no fault visits the files of the inventory, in its
order. -/
theorem Inventory.paths_eq (hwf : top.WellFormed) {files : List Found}
    (h : Inventory top root files) {paths : List String}
    (hwalk : Walk.files top root false = paths.map .ok) :
    paths = files.map fun f => Path.descend root f.1 := by
  obtain ⟨place, hroot, hpaths⟩ := Walk.files_eq hwalk
  rw [hpaths, ← h.names_eq hwf hroot, List.map_map]
  rfl

/-- A root that leads somewhere has an inventory. -/
theorem exists_inventory (hwf : top.WellFormed) {place : FileTree.Place}
    (hroot : FileTree.resolve top root = .ok place) : ∃ files, Inventory top root files := by
  have hplace := (FileTree.resolve_wellFormed hwf hroot).node
  have hbytes : ∀ names ∈ Walk.namesAt top root place.node,
      ∃ bytes, FileBelow top root names bytes :=
    fun names hnames => (Walk.mem_namesAt_iff_fileBelow hroot names).mp hnames
  choose! bytesOf hbytesOf using hbytes
  refine ⟨(Walk.namesAt top root place.node).map fun names => (names, bytesOf names), ?_, ?_⟩
  · intro names bytes
    rw [List.mem_map]
    constructor
    · rintro ⟨_, hmem, heq⟩
      obtain ⟨rfl, rfl⟩ := Prod.mk.inj heq
      exact hbytesOf _ hmem
    · intro hfile
      have hmem := (Walk.mem_namesAt_iff_fileBelow hroot names).mpr ⟨bytes, hfile⟩
      exact ⟨names, hmem, by rw [hfile.unique hwf (hbytesOf names hmem)]⟩
  · exact List.pairwise_map.mpr (Walk.pairwise_before_namesAt top root hplace)

/-- The files below a root, if each of them can be read. -/
def takeInventory (top : Node) (root : String) : Except FileFault (List Found) := do
  let place ← FileTree.resolve top root
  (Walk.namesAt top root place.node).mapM fun names => do
    let bytes ← FileTree.bytesAt top (Path.descend root names)
    return (names, bytes)

theorem inventory_of_takeInventory (hwf : top.WellFormed) {files : List Found}
    (h : takeInventory top root = .ok files) : Inventory top root files := by
  obtain ⟨place, hroot, h⟩ := bind_ok h
  have hfiles : List.Forall₂ (fun names f => f.1 = names ∧ FileBelow top root names f.2)
      (Walk.namesAt top root place.node) files := by
    have hnames := (List.forall₂_and_left _ _).mpr ⟨fun names hnames => hnames, forall₂_of_mapM h⟩
    refine hnames.imp fun names f hf => ?_
    obtain ⟨bytes, hread, hpair⟩ := bind_ok hf.2
    obtain rfl := Except.ok.inj hpair
    obtain ⟨bytes', hbelow⟩ := (Walk.mem_namesAt_iff_fileBelow hroot names).mp hf.1
    exact ⟨rfl, hbelow.of_bytesAt hwf hread ▸ hbelow⟩
  have hnames : Walk.namesAt top root place.node = files.map Prod.fst := by
    rw [← List.forall₂_eq_eq_eq, List.forall₂_map_right_iff]
    exact hfiles.imp fun names f hf => hf.1.symm
  have hbelow : ∀ f ∈ files, FileBelow top root f.1 f.2 := by
    intro f hf
    obtain ⟨names, -, rfl, hbelow⟩ := exists_of_forall₂ hfiles f hf
    exact hbelow
  refine ⟨fun names bytes => ⟨hbelow (names, bytes), fun hfile => ?_⟩, ?_⟩
  · have hmem := (Walk.mem_namesAt_iff_fileBelow hroot names).mpr ⟨bytes, hfile⟩
    rw [hnames] at hmem
    obtain ⟨f, hf, rfl⟩ := List.mem_map.mp hmem
    rw [hfile.unique hwf (hbelow f hf)]
    exact hf
  · have hpairwise := Walk.pairwise_before_namesAt top root
      (FileTree.resolve_wellFormed hwf hroot).node
    rw [hnames, List.pairwise_map] at hpairwise
    exact hpairwise

/-- The names in an inventory are file names. -/
theorem Inventory.isFileName (hwf : top.WellFormed) {files : List Found}
    (h : Inventory top root files) {f : Found} (hf : f ∈ files) :
    ∀ n ∈ f.1, Path.IsFileName n :=
  ((h.mem_iff f.1 f.2).mp hf).isFileName hwf

theorem Inventory.root_ne_empty {files : List Found} (h : Inventory top root files) {f : Found}
    (hf : f ∈ files) : root ≠ "" :=
  ((h.mem_iff f.1 f.2).mp hf).root_ne_empty

theorem Inventory.names_ne_nil (hwf : top.WellFormed) {files : List Found}
    (h : Inventory top root files) {f : Found} (hf : f ∈ files)
    (hne : Path.relativeName root (Path.descend root f.1) ≠ "") : f.1 ≠ [] := by
  rwa [Ne, Path.relativeName_eq_empty_iff (h.root_ne_empty hf) (h.isFileName hwf hf)] at hne

/-- What is read by the path of a file in an inventory are its bytes. -/
theorem Inventory.bytes_eq (hwf : top.WellFormed) {files : List Found}
    (h : Inventory top root files) {f : Found} (hf : f ∈ files) {bytes : List UInt8}
    (hread : FileTree.bytesAt top (Path.descend root f.1) = .ok bytes) : bytes = f.2 :=
  ((h.mem_iff f.1 f.2).mp hf).of_bytesAt hwf hread

end TemplateCheck
