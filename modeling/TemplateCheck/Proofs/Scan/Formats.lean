import TemplateCheck.MediaType
import TemplateCheck.Proofs.Path.RelativeName
import TemplateCheck.Proofs.Scan.Afresh
import TemplateCheck.Proofs.Text.Utf8

/-!
# Formats of samples

The format of a sample is read off its path. Files with one relative name mostly have one format,
for their file names differ only in how far they reach to the front; where they do not, one of them
has no format at all, and that is told.

* `Path.extension?_of_suffix` — a file name with something in front of it keeps its extension;
* `Path.formatName_of_relativeName_eq` — the formats of files with one relative name;
* `Scan.verdict_decode_eq_iff` — whether such files give the same outcome with a template.
-/

namespace TemplateCheck

namespace Path

/-! ### Extensions -/

/-- A file name with something in front of it keeps its extension, if it has one. -/
theorem extension?_of_suffix {path path' name name' : String} (h : fileName? path = some name)
    (h' : fileName? path' = some name') (hsuffix : name.toList <:+ name'.toList) :
    extension? path = none ∨ extension? path = extension? path' := by
  obtain ⟨front, hfront⟩ := hsuffix
  have hname' : name' = String.ofList front ++ name := by
    apply String.toList_inj.mp
    rw [String.toList_append, String.toList_ofList, hfront]
  cases hsplit : splitLast? '.' name with
  | none => exact .inl (by simp [extension?, h, hsplit])
  | some parts =>
    obtain ⟨before, after⟩ := parts
    have hsplit' : splitLast? '.' name' = some (String.ofList front ++ before, after) := by
      rw [hname']
      exact splitLast?_append _ hsplit
    by_cases hbefore : before = ""
    · exact .inl (by simp [extension?, h, hsplit, hbefore])
    · exact .inr (by simp [extension?, h, h', hsplit, hsplit', hbefore])

/-! ### One relative name -/

/-- The last of some names ends the text in which they are joined. -/
theorem suffix_ofSegments {names : List String} {name : String}
    (h : names.getLast? = some name) : name.toList <:+ (ofSegments names).toList := by
  induction names with
  | nil => simp at h
  | cons first names ih =>
    cases names with
    | nil =>
      obtain rfl : first = name := by simpa using h
      exact (ofSegments_singleton first).symm ▸ List.suffix_rfl
    | cons next names =>
      rw [List.getLast?_cons_cons] at h
      rw [toList_ofSegments_cons]
      exact (ih h).trans ((List.suffix_cons _ _).trans (List.suffix_append _ _))

/-- A file name can be read off the end of a relative name, with a backslash for each slash. -/
theorem suffix_map_slashed {names : List String} {name : String} (hname : IsFileName name)
    (hlast : names.getLast? = some name) :
    name.toList <:+ (slashed (ofSegments names)).toList.map fun c =>
      if c == '/' then '\\' else c := by
  rw [slashed, String.toList_ofList, List.map_map]
  have hsame : name.toList.map ((fun c => if c == '/' then '\\' else c) ∘
      fun c => if c == '\\' then '/' else c) = name.toList := by
    conv_rhs => rw [← List.map_id name.toList]
    refine List.map_congr_left fun c hc => ?_
    have hslash : c ≠ '/' := fun heq => hname.no_slash (heq ▸ hc)
    by_cases hback : c = '\\' <;> simp [hback, hslash]
  rw [← hsame]
  exact (suffix_ofSegments hlast).map _

variable {root₁ root₂ : String} {names₁ names₂ : List String}

/-- Of two files with one relative name, one has no extension or both have the same. -/
theorem extension?_of_relativeName_eq (hroot₁ : root₁ ≠ "") (hroot₂ : root₂ ≠ "")
    (h₁ : ∀ n ∈ names₁, IsFileName n) (h₂ : ∀ n ∈ names₂, IsFileName n) (hne : names₁ ≠ [])
    (heq : relativeName root₁ (descend root₁ names₁) =
      relativeName root₂ (descend root₂ names₂)) :
    extension? (descend root₁ names₁) = none ∨ extension? (descend root₂ names₂) = none ∨
      extension? (descend root₁ names₁) = extension? (descend root₂ names₂) := by
  have hne₂ : names₂ ≠ [] := by
    rw [Ne, ← relativeName_eq_empty_iff hroot₂ h₂, ← heq, relativeName_eq_empty_iff hroot₁ h₁]
    exact hne
  obtain ⟨last₁, hlast₁⟩ := Option.isSome_iff_exists.mp (List.getLast?_isSome.mpr hne)
  obtain ⟨last₂, hlast₂⟩ := Option.isSome_iff_exists.mp (List.getLast?_isSome.mpr hne₂)
  have hfile₁ := (fileName?_descend hroot₁ (isNormal_of_isFileName h₁) hne).trans hlast₁
  have hfile₂ := (fileName?_descend hroot₂ (isNormal_of_isFileName h₂) hne₂).trans hlast₂
  have hsuffix₁ := suffix_map_slashed (h₁ _ (List.mem_of_getLast? hlast₁)) hlast₁
  have hsuffix₂ := suffix_map_slashed (h₂ _ (List.mem_of_getLast? hlast₂)) hlast₂
  rw [relativeName_descend hroot₁ h₁, relativeName_descend hroot₂ h₂] at heq
  rw [heq] at hsuffix₁
  rcases List.suffix_or_suffix_of_suffix hsuffix₁ hsuffix₂ with hsuffix | hsuffix
  · rcases extension?_of_suffix hfile₁ hfile₂ hsuffix with hnone | hsame
    · exact .inl hnone
    · exact .inr (.inr hsame)
  · rcases extension?_of_suffix hfile₂ hfile₁ hsuffix with hnone | hsame
    · exact .inr (.inl hnone)
    · exact .inr (.inr hsame.symm)

/-- Of two files with one relative name, one has no format or both have the same. -/
theorem formatName_of_relativeName_eq (hroot₁ : root₁ ≠ "") (hroot₂ : root₂ ≠ "")
    (h₁ : ∀ n ∈ names₁, IsFileName n) (h₂ : ∀ n ∈ names₂, IsFileName n) (hne : names₁ ≠ [])
    (heq : relativeName root₁ (descend root₁ names₁) =
      relativeName root₂ (descend root₂ names₂)) :
    Sample.formatName (descend root₁ names₁) = "" ∨
      Sample.formatName (descend root₂ names₂) = "" ∨
      Sample.formatName (descend root₁ names₁) = Sample.formatName (descend root₂ names₂) := by
  simp only [Sample.formatName]
  rcases extension?_of_relativeName_eq hroot₁ hroot₂ h₁ h₂ hne heq with hnone | hnone | hsame
  · exact .inl (by rw [hnone]; rfl)
  · exact .inr (.inl (by rw [hnone]; rfl))
  · exact .inr (.inr (by rw [hsame]))

theorem formatName_congr {path path' : String} (h : fileName? path = fileName? path') :
    Sample.formatName path = Sample.formatName path' := by
  rw [Sample.formatName, Sample.formatName, extension?, extension?, h]

end Path

namespace Scan

/-! ### Outcomes -/

/-- Rendering is never to blame on the loading of a sample. -/
theorem problem?_ne_sampleLoad {options : ScanOptions} {t : Template} {m : Model} (name : String)
    (reason : Reason) : problem? options t m ≠ some (.sampleLoad name reason) := by
  rw [problem?, Template.render]
  cases (t.setting (complete options m)).render t.policy with
  | error fault => simp [Template.fault]
  | ok text =>
    simp only [Template.validateOutput]
    rcases MediaType.validate_cases t.mediaType text with haccepted | ⟨reason, hrefused⟩
    · simp [haccepted]
    · simp [hrefused]

/-- A sample that is a text has no format just if this is what is told of it. -/
theorem verdict_decode_eq_iff_formatName {options : ScanOptions} {t : Template}
    {name path text : String} :
    verdict options t name (Sample.decode path (Text.Utf8.encode text)) =
      some (.sampleLoad name (.sampleFormat "")) ↔ Sample.formatName path = "" := by
  rw [Sample.decode, Text.Utf8.decode_eq_ok_iff.mpr rfl]
  simp only
  cases hformat : SampleFormat.ofName? (Sample.formatName path) with
  | none => simp [verdict]
  | some format =>
    have hne : Sample.formatName path ≠ "" := by
      intro hempty
      rw [hempty, show SampleFormat.ofName? "" = none by decide] at hformat
      simp at hformat
    cases hread : format.read text with
    | error fault => simp [hread, hne, verdict]
    | ok m => simp [hread, hne, verdict, problem?_ne_sampleLoad]

theorem decode_congr {path path' : String} (h : Sample.formatName path = Sample.formatName path')
    (bytes : List UInt8) : Sample.decode path bytes = Sample.decode path' bytes := by
  rw [Sample.decode, Sample.decode, h]

/-- The outcome for samples with the same bytes is the same just if they have the same format, where
a format that differs is none at all, or if the bytes are no text. -/
theorem verdict_decode_eq_iff {options : ScanOptions} {t : Template} {name path₁ path₂ : String}
    (hformats : Sample.formatName path₁ = "" ∨ Sample.formatName path₂ = "" ∨
      Sample.formatName path₁ = Sample.formatName path₂) (bytes : List UInt8) :
    verdict options t name (Sample.decode path₁ bytes) =
      verdict options t name (Sample.decode path₂ bytes) ↔
    ((∃ text, bytes = Text.Utf8.encode text) →
      Sample.formatName path₁ = Sample.formatName path₂) := by
  constructor
  · rintro hverdict ⟨text, rfl⟩
    rcases hformats with h | h | h
    · rw [h, eq_comm, ← verdict_decode_eq_iff_formatName, ← hverdict,
        verdict_decode_eq_iff_formatName, h]
    · rw [h, ← verdict_decode_eq_iff_formatName, hverdict, verdict_decode_eq_iff_formatName, h]
    · exact h
  · intro h
    cases hdecoded : Text.Utf8.decode bytes with
    | error fault => rw [Sample.decode, Sample.decode, hdecoded]
    | ok text => rw [decode_congr (h ⟨text, Text.Utf8.decode_eq_ok_iff.mp hdecoded⟩)]

end Scan

end TemplateCheck
