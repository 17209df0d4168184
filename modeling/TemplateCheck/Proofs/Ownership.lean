import TemplateCheck.Proofs.Path.Components
import TemplateCheck.Proofs.Snapshot
import TemplateCheck.Proofs.Text.ByteOrder

/-!
# Which samples belong to a template

A sample belongs to a template by their names alone. This is told by what the two names are put
together from, not by how they are taken apart, and then of all samples that are registered while
others are loaded and files change.

* `Sample.Located`, `Sample.Stemmed` — the directory, the file name and the stem that a name tells;
* `Sample.Leads` — what the file name of a sample has to begin with;
* `Sample.Belongs`, `Sample.belongsTo_iff` — a sample is meant for a template just if it belongs to
  it;
* `Samples.matching_after` — the samples listed for a template after any events.

The file name of the template itself is worth asking for only where it has no stem: in all other
cases what begins with it begins with its stem as well (`Sample.stem_begins`).
-/

namespace TemplateCheck

namespace Sample

/-! ### What a name tells -/

/-- The directory and the file name of a relative name stand before and behind its last slash. A
name without slashes is a file name, and its directory is the empty text. -/
inductive Located (name : String) : String → String → Prop
  | below {dir file : String} (parted : name = dir ++ "/" ++ file) (last : '/' ∉ file.toList) :
      Located name dir file
  | top (undivided : '/' ∉ name.toList) : Located name "" name

/-- The stem of a file name stands before its last dot. A file name without dots is its own stem. -/
inductive Stemmed (file : String) : String → Prop
  | cut {front ending : String} (parted : file = front ++ "." ++ ending)
      (last : '.' ∉ ending.toList) : Stemmed file front
  | uncut (undivided : '.' ∉ file.toList) : Stemmed file file

/-- What the file name of a sample begins with if it belongs to a template with this file name: the
stem, or the whole if the stem is empty. -/
inductive Leads (file : String) : String → Prop
  | stem {front : String} (stemmed : Stemmed file front) (nonempty : front ≠ "") : Leads file front
  | whole (stemless : Stemmed file "") : Leads file file

/-- A sample belongs to a template: the names tell the same directory, the template has a file name,
and that of the sample begins with what leads to it. -/
inductive Belongs (template sample : String) : Prop
  | intro {dir file sampleFile lead : String} (templateAt : Located template dir file)
      (sampleAt : Located sample dir sampleFile) (named : file ≠ "") (leads : Leads file lead)
      (begins : lead.toList <+: sampleFile.toList)

/-! ### What is read off a name -/

theorem toList_slash : "/".toList = ['/'] := rfl

theorem toList_dot : ".".toList = ['.'] := rfl

/-- A text is parted at its last mark into what it is put together from. -/
theorem splitLast?_eq_some_iff_append {sep s before after : String} {mark : Char}
    (hsep : sep.toList = [mark]) :
    Path.splitLast? mark s = some (before, after) ↔
      s = before ++ sep ++ after ∧ mark ∉ after.toList := by
  rw [Path.splitLast?_eq_some_iff, ← String.toList_inj, String.toList_append, String.toList_append,
    hsep, List.append_assoc, List.singleton_append]

theorem located_iff {name dir file : String} :
    Located name dir file ↔ splitName name = (dir, file) := by
  rw [splitName]
  constructor
  · rintro (⟨parted, last⟩ | undivided)
    · rw [(splitLast?_eq_some_iff_append toList_slash).mpr ⟨parted, last⟩, Option.getD_some]
    · rw [Path.splitLast?_eq_none_iff.mpr undivided, Option.getD_none]
  · intro h
    cases hsplit : Path.splitLast? '/' name with
    | none =>
      rw [hsplit, Option.getD_none, Prod.mk.injEq] at h
      obtain ⟨rfl, rfl⟩ := h
      exact .top (Path.splitLast?_eq_none_iff.mp hsplit)
    | some parts =>
      rw [hsplit, Option.getD_some] at h
      obtain ⟨parted, last⟩ := (splitLast?_eq_some_iff_append toList_slash).mp (h ▸ hsplit)
      exact .below parted last

theorem stemmed_iff {file front : String} : Stemmed file front ↔ stem file = front := by
  rw [stem]
  constructor
  · rintro (⟨parted, last⟩ | undivided)
    · rw [(splitLast?_eq_some_iff_append toList_dot).mpr ⟨parted, last⟩]
    · rw [Path.splitLast?_eq_none_iff.mpr undivided]
  · intro h
    cases hsplit : Path.splitLast? '.' file with
    | none =>
      rw [hsplit] at h
      exact h ▸ .uncut (Path.splitLast?_eq_none_iff.mp hsplit)
    | some parts =>
      rw [hsplit] at h
      obtain ⟨parted, last⟩ := (splitLast?_eq_some_iff_append toList_dot).mp hsplit
      exact h ▸ .cut parted last

/-- A file name begins with its stem. -/
theorem stem_begins (file : String) : (stem file).toList <+: file.toList := by
  have stemmed : Stemmed file (stem file) := stemmed_iff.mpr rfl
  generalize stem file = front at stemmed ⊢
  rcases stemmed with ⟨parted, -⟩ | -
  · rw [parted, String.toList_append, String.toList_append, List.append_assoc]
    exact List.prefix_append _ _
  · exact List.prefix_rfl

/-- Something leads to a file name if that begins with the whole or with a stem that is not
empty. -/
theorem exists_leads_iff {file : String} {cs : List Char} :
    (∃ lead, Leads file lead ∧ lead.toList <+: cs) ↔
      file.toList <+: cs ∨ stem file ≠ "" ∧ (stem file).toList <+: cs := by
  constructor
  · rintro ⟨lead, ⟨stemmed, nonempty⟩ | stemless, begins⟩
    · rw [← stemmed_iff.mp stemmed] at nonempty begins
      exact .inr ⟨nonempty, begins⟩
    · exact .inl begins
  · rintro (hwhole | ⟨nonempty, begins⟩)
    · -- The whole name leads only where there is no stem; else the stem does, with which the name
      -- begins.
      by_cases hstem : stem file = ""
      · exact ⟨file, .whole (stemmed_iff.mpr hstem), hwhole⟩
      · exact ⟨stem file, .stem (stemmed_iff.mpr rfl) hstem, (stem_begins file).trans hwhole⟩
    · exact ⟨stem file, .stem (stemmed_iff.mpr rfl) nonempty, begins⟩

/-- A sample is meant for a template just if it belongs to it. -/
theorem belongsTo_iff (template sample : String) :
    belongsTo template sample = true ↔ Belongs template sample := by
  simp only [belongsTo, Bool.and_eq_true, Bool.or_eq_true, beq_iff_eq, bne_iff_ne,
    List.isPrefixOf_iff_prefix, ← exists_leads_iff]
  constructor
  · rintro ⟨⟨same, named⟩, lead, leads, begins⟩
    have templateAt : Located template (splitName template).1 (splitName template).2 :=
      located_iff.mpr rfl
    have sampleAt : Located sample (splitName template).1 (splitName sample).2 :=
      same ▸ located_iff.mpr rfl
    exact ⟨templateAt, sampleAt, named, leads, begins⟩
  · rintro ⟨templateAt, sampleAt, named, leads, begins⟩
    rw [located_iff.mp templateAt, located_iff.mp sampleAt]
    exact ⟨⟨rfl, named⟩, _, leads, begins⟩

instance (template sample : String) : Decidable (Belongs template sample) :=
  decidable_of_iff _ (belongsTo_iff template sample)

-- A dot in front leaves no stem, and one at the end leaves all the rest.
example : [".json", ".env.json", "a/.env.json"].filter (Belongs ".env") = [".env.json"] ∧
    ["user", "user.json", "users.json", "us.json"].filter (Belongs "user.") =
      ["user", "user.json", "users.json"] ∧ ¬ Belongs "a/" "a/user.json" := by
  decide +kernel

end Sample

namespace Samples

open FileTree (Node)

/-! ### Registered samples -/

variable {top : Node} {past : List Event} {name : String}

/-- A name is registered if it was ever added. -/
theorem exists_registered_iff :
    (∃ path, Registered past name path) ↔ ∃ path, Event.add name path ∈ past := by
  induction past using List.reverseRecOn with
  | nil =>
    constructor
    · rintro ⟨path, ⟨added, -⟩⟩
      simp at added
    · rintro ⟨path, hmem⟩
      exact absurd hmem List.not_mem_nil
  | append_singleton past e ih =>
    constructor
    · rintro ⟨path, ⟨added, -⟩⟩
      exact ⟨path, added ▸ List.mem_append_right _ List.mem_cons_self⟩
    · rintro ⟨path, hmem⟩
      rcases List.mem_append.mp hmem with hmem | hmem
      · exact exists_registered_concat (ih.mpr ⟨path, hmem⟩) e
      · exact ⟨path, registered_concat_iff.mpr (.inl (List.mem_singleton.mp hmem).symm)⟩

theorem mem_keys_after_iff :
    name ∈ (Session.after top past).samples.paths.keys ↔ ∃ path, Event.add name path ∈ past := by
  rw [KeyMap.mem_keys_iff, Option.isSome_iff_exists, ← exists_registered_iff]
  simp only [(follows_after top past).path_iff]

/-- After any events, the list of the samples for a template ascends in the order of their bytes and
holds all names that were ever added and belong to the template, and no others. Whatever happens
then, more samples being added or else, takes no name from the list and changes the place of
none. -/
theorem matching_after (top : Node) (past : List Event) (template : String) :
    ((Session.after top past).samples.matching template).Pairwise
        (fun a b => Text.Utf8.encode a < Text.Utf8.encode b) ∧
      (∀ name, name ∈ (Session.after top past).samples.matching template ↔
        (∃ path, Event.add name path ∈ past) ∧ Sample.Belongs template name) ∧
      ∀ more, ((Session.after top past).samples.matching template).Sublist
        ((Session.after top (past ++ more)).samples.matching template) := by
  refine ⟨?_, fun name => ?_, fun more => ?_⟩
  · exact ((KeyMap.pairwise_keys _).filter _).imp Text.Utf8.encode_lt_encode
  · rw [matching, List.mem_filter, mem_keys_after_iff, Sample.belongsTo_iff]
  · have hkeys : (Session.after top past).samples.paths.keys ⊆
        (Session.after top (past ++ more)).samples.paths.keys := by
      intro name hname
      rw [mem_keys_after_iff] at hname ⊢
      exact hname.imp fun path hmem => List.mem_append_left more hmem
    exact (KeyMap.keys_sublist hkeys).filter _

end Samples

end TemplateCheck
