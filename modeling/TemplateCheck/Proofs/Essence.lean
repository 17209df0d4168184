import TemplateCheck.MediaType
import TemplateCheck.Proofs.Interpolation
import TemplateCheck.Proofs.Success

/-!
# What a media type decides

Parsers that differ only in the media type of the output read the same templates. Which texts these
accept is decided by the essence of the media type alone, except that an empty media type counts as
none, and then the output has to be JSON.

* `Template.JudgesAlike` — two templates accept the same texts and refuse the others for one
  problem;
* `Template.judgesAlike_iff_empty` — templates whose media types have one essence;
* `Parser.ofSettings_typed`, `Parser.parse_typed` — parsers that differ in the media type only;
* `Parser.essence_decides` — the templates of two parsers whose media types have one essence.
-/

namespace TemplateCheck

/-! ### The empty media type -/

namespace MediaType

theorem essence_empty : essence "" = "" := by decide

/-- The essence that an empty media type has is that of no data format. -/
theorem validate_of_essence_empty {m : String} (h : essence m = "") (text : String) :
    validate m text = .ok () := by
  have hformat : Format.ofEssence? (essence m) = none := by
    rw [h]
    decide +kernel
  exact validate_of_format_none hformat text

theorem validate_default_empty :
    validate Template.defaultMediaType "" =
      .error (.invalidOutput "application/json" (.decode .endOfText)) := by
  decide +kernel

end MediaType

/-! ### Templates -/

namespace Template

/-- Every text is accepted by both templates, or refused by both for the same problem of the
output. -/
def JudgesAlike (t u : Template) : Prop :=
  ∀ text, (t.validateOutput text = .ok () ∧ u.validateOutput text = .ok ()) ∨
    ∃ mediaType reason, t.validateOutput text = .error (.invalidOutput mediaType reason) ∧
      u.validateOutput text = .error (.invalidOutput mediaType reason)

theorem judgesAlike_iff {t u : Template} :
    t.JudgesAlike u ↔ ∀ text, t.validateOutput text = u.validateOutput text := by
  constructor
  · intro h text
    rcases h text with ⟨ht, hu⟩ | ⟨mediaType, reason, ht, hu⟩
    · exact ht.trans hu.symm
    · exact ht.trans hu.symm
  · intro h text
    rcases MediaType.validate_cases t.mediaType text with ht | ⟨reason, ht⟩
    · exact .inl ⟨ht, (h text).symm.trans ht⟩
    · exact .inr ⟨_, reason, ht, (h text).symm.trans ht⟩

theorem JudgesAlike.symm {t u : Template} (h : t.JudgesAlike u) : u.JudgesAlike t :=
  judgesAlike_iff.mpr fun text => (judgesAlike_iff.mp h text).symm

theorem mediaType_of_empty {t : Template} (h : t.configuredType = filled (some "")) :
    t.mediaType = defaultMediaType := by
  rw [mediaType, h]
  rfl

theorem mediaType_of_filled {t : Template} {m : String} (hm : m ≠ "")
    (h : t.configuredType = filled (some m)) : t.mediaType = m := by
  rw [mediaType, h, filled, Option.filter_some, if_pos (bne_iff_ne.mpr hm)]
  rfl

/-- Of two media types without essence only the empty one counts as none: then a text that is not
JSON is refused, and otherwise it is not. -/
theorem not_judgesAlike_of_empty {t u : Template} {m : String} (hm : m ≠ "")
    (hessence : MediaType.essence m = "") (ht : t.configuredType = filled (some ""))
    (hu : u.configuredType = filled (some m)) : ¬ t.JudgesAlike u := by
  intro h
  have hrefused : t.validateOutput "" =
      .error (.invalidOutput "application/json" (.decode .endOfText)) := by
    rw [validateOutput, mediaType_of_empty ht]
    exact MediaType.validate_default_empty
  have haccepted : u.validateOutput "" = .ok () := by
    rw [validateOutput, mediaType_of_filled hm hu]
    exact MediaType.validate_of_essence_empty hessence ""
  have halike := judgesAlike_iff.mp h ""
  rw [hrefused, haccepted] at halike
  cases halike

/-- Templates whose media types have one essence judge alike just if both media types are empty or
none is. -/
theorem judgesAlike_iff_empty {t u : Template} {m m' : String}
    (hessence : MediaType.essence m = MediaType.essence m')
    (ht : t.configuredType = filled (some m)) (hu : u.configuredType = filled (some m')) :
    t.JudgesAlike u ↔ (m = "" ↔ m' = "") := by
  by_cases hm : m = ""
  · by_cases hm' : m' = ""
    · have hsame : t.mediaType = u.mediaType := by
        rw [mediaType_of_empty (hm ▸ ht), mediaType_of_empty (hm' ▸ hu)]
      have halike : t.JudgesAlike u := judgesAlike_iff.mpr fun text => by
        rw [validateOutput, validateOutput, hsame]
      exact iff_of_true halike (iff_of_true hm hm')
    · have hempty : MediaType.essence m' = "" := by
        rw [← hessence, hm, MediaType.essence_empty]
      have hnot := not_judgesAlike_of_empty hm' hempty (hm ▸ ht) hu
      exact iff_of_false hnot fun h => hm' (h.mp hm)
  · by_cases hm' : m' = ""
    · have hempty : MediaType.essence m = "" := by
        rw [hessence, hm', MediaType.essence_empty]
      have hnot := not_judgesAlike_of_empty hm hempty (hm' ▸ hu) ht
      exact iff_of_false (fun h => hnot h.symm) fun h => hm (h.mpr hm')
    · have halike : t.JudgesAlike u := judgesAlike_iff.mpr fun text => by
        rw [validateOutput, validateOutput, mediaType_of_filled hm ht, mediaType_of_filled hm' hu,
          MediaType.validate_congr hessence]
      exact iff_of_true halike (iff_of_false hm hm')

end Template

/-! ### Parsers -/

namespace Parser

/-- The media type does not decide whether there is a parser, and is only kept in it. -/
theorem ofSettings_typed {c : ParserSettings} {a : Option String} {p : Parser}
    (hp : ofSettings { c with mediaType := a } = .ok p) (b : Option String) :
    ofSettings { c with mediaType := b } = .ok { p with mediaType := filled b } := by
  obtain ⟨missingKey, hmissing, hp⟩ := bind_ok hp
  obtain ⟨delimiters, hdelimiters, hp⟩ := bind_ok hp
  obtain rfl := Except.ok.inj hp
  have hmissing' : MissingKey.resolve c.missingKey = .ok missingKey := hmissing
  have hdelimiters' : ParserSettings.delimiters { c with mediaType := b } = .ok delimiters :=
    hdelimiters
  rw [ofSettings, hmissing', hdelimiters']
  rfl

theorem mediaType_of_ofSettings {c : ParserSettings} {p : Parser} (hp : ofSettings c = .ok p) :
    p.mediaType = filled c.mediaType := by
  obtain ⟨_, -, hp⟩ := bind_ok hp
  obtain ⟨_, -, hp⟩ := bind_ok hp
  rw [← Except.ok.inj hp]

/-- The media type is not asked when a template is read; it is only kept with it. -/
theorem parse_typed (p : Parser) (mediaType : Option String) (name source : String) :
    parse { p with mediaType } name source =
      (p.parse name source).map fun t => { t with configuredType := mediaType } := by
  unfold parse
  cases Template.Program.compile p.delimiters source with
  | error fault => rfl
  | ok program => rfl

theorem configuredType_of_parse {p : Parser} {name source : String} {t : Template}
    (h : p.parse name source = .ok t) : t.configuredType = p.mediaType := by
  rw [parse] at h
  split at h
  · rw [← Except.ok.inj h]
  · cases h

/-- Take two media types with one essence. With settings that differ only in them there are two
parsers or none, and these read the same templates, or refuse them for the same problem. The
templates judge texts alike, both accepting or both refusing for one problem, just if both media
types are empty or none of them is. -/
theorem essence_decides (c : ParserSettings) {m m' : String}
    (hessence : MediaType.essence m = MediaType.essence m') {p : Parser}
    (hp : ofSettings { c with mediaType := some m } = .ok p) :
    ∃ q, ofSettings { c with mediaType := some m' } = .ok q ∧ ∀ name source,
      q.parse name source =
          ((p.parse name source).map fun t => { t with configuredType := q.mediaType }) ∧
        ∀ t u, p.parse name source = .ok t → q.parse name source = .ok u →
          (t.JudgesAlike u ↔ (m = "" ↔ m' = "")) := by
  have hq := ofSettings_typed hp (some m')
  refine ⟨_, hq, fun name source => ⟨parse_typed p _ name source, fun t u ht hu => ?_⟩⟩
  have htype : t.configuredType = filled (some m) :=
    (configuredType_of_parse ht).trans (mediaType_of_ofSettings hp)
  have hutype : u.configuredType = filled (some m') :=
    (configuredType_of_parse hu).trans (mediaType_of_ofSettings hq)
  exact Template.judgesAlike_iff_empty hessence htype hutype

/-- The template `x` with a media type of its own or none, as a parser without other settings reads
it. -/
def letter (configuredType : Option String) : Template where
  name := "t"
  configuredType
  program := ⟨[.text "x"]⟩
  functions := KeyMap.empty
  describe := .none
  escaping := false
  policy := .strict

/-- A parser of which nothing is set but perhaps the media type. -/
def typed (mediaType : Option String) : Parser :=
  ⟨.text, .error, Template.Delimiters.standard, mediaType, KeyMap.empty, .none⟩

theorem ofSettings_typed_default (mediaType : Option String) :
    ofSettings { ParserSettings.default with mediaType } = .ok (typed (filled mediaType)) := by
  have hnone : ofSettings { ParserSettings.default with mediaType := none } = .ok (typed none) := by
    rfl
  exact ofSettings_typed hnone mediaType

open Template in
theorem parse_typed_letter (mediaType : Option String) :
    (typed mediaType).parse "t" "x" = .ok (letter mediaType) := by
  have hfits : ∀ piece ∈ [Piece.text ['x']], piece.Fits Delimiters.standard KeyMap.empty := by
    rw [List.forall_mem_singleton]
    exact Delimiters.bare_standard (by simp)
  have hcompile := Program.compile_pieces Delimiters.drawn_standard hfits
  have hsource : "x" = String.ofList
      ([Piece.text ['x']].flatMap (·.source Delimiters.standard)) := by
    rfl
  rw [parse, typed, hsource, hcompile]
  rfl

/-- One media type with capital letters and a parameter, and one with blanks around it. -/
theorem essence_decides_padded :
    MediaType.essence "Application/JSON ;charset=utf-8" = MediaType.essence " application/json" ∧
      ∃ p q t u,
        ofSettings
          { ParserSettings.default with mediaType := some "Application/JSON ;charset=utf-8" } =
            .ok p ∧
        ofSettings { ParserSettings.default with mediaType := some " application/json" } = .ok q ∧
        p.parse "t" "x" = .ok t ∧ q.parse "t" "x" = .ok u ∧ t.JudgesAlike u := by
  have hessence : MediaType.essence "Application/JSON ;charset=utf-8" =
      MediaType.essence " application/json" := by
    decide +kernel
  have hp := ofSettings_typed_default (some "Application/JSON ;charset=utf-8")
  have ht := parse_typed_letter (filled (some "Application/JSON ;charset=utf-8"))
  obtain ⟨q, hq, hparse⟩ := essence_decides ParserSettings.default hessence hp
  obtain ⟨hsame, halike⟩ := hparse "t" "x"
  rw [ht] at hsame
  exact ⟨hessence, _, q, _, _, hp, hq, ht, hsame,
    (halike _ _ ht hsame).mpr (iff_of_false (by decide) (by decide))⟩

/-- The essence of a media type does not decide alone: an empty one counts as none, and one that is
nothing but a semicolon does not. -/
theorem essence_not_alone :
    MediaType.essence "" = MediaType.essence ";" ∧
      ∃ p q t u, ofSettings { ParserSettings.default with mediaType := some "" } = .ok p ∧
        ofSettings { ParserSettings.default with mediaType := some ";" } = .ok q ∧
        p.parse "t" "x" = .ok t ∧ q.parse "t" "x" = .ok u ∧
        t.validateOutput "x" = .error (.invalidOutput "application/json" (.decode .malformed)) ∧
        u.validateOutput "x" = .ok () :=
  ⟨by decide, _, _, _, _, ofSettings_typed_default (some ""), ofSettings_typed_default (some ";"),
    parse_typed_letter _, parse_typed_letter _, by decide +kernel, by decide +kernel⟩

end Parser

end TemplateCheck
