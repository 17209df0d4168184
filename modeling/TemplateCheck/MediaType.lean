import TemplateCheck.Json.Reader
import TemplateCheck.Problem
import TemplateCheck.Parser
import TemplateCheck.Text.Pieces
import TemplateCheck.Yaml.Value

/-!
# Media types

A media type says what a text has to be.

* `essence` — a media type without its parameters, in one spelling;
* `Format.ofEssence?` — the data format that a media type stands for;
* `validate` — does a text have the media type? A text of any other type than JSON or YAML does;
* `validate_cases` — a text is accepted, or refused with the essence of the media type.
-/

namespace TemplateCheck.MediaType

/-- A media type without its parameters and without capital letters. -/
def essence (mediaType : String) : String :=
  let front := mediaType.toList.takeWhile (· != ';')
  String.ofList ((Text.trim (String.ofList front)).toList.map Char.toLower)

/-- The data formats that are checked. -/
inductive Format where
  | json
  | yaml
deriving Repr, DecidableEq

/-- The data format of a media type, given by its essence. -/
def Format.ofEssence? (s : String) : Option Format :=
  if s = "application/json" ∨ s.endsWith "+json" then some .json
  else if s = "application/yaml" ∨ s = "application/x-yaml" ∨ s = "text/yaml"
      ∨ s.endsWith "+yaml" then some .yaml
  else none

/-- Is a text of a data format? -/
def Format.check : Format → String → Decoded Unit
  | .json, text => do
    let _ ← Json.read text
  | .yaml, text => do
    let _ ← Yaml.Value.read text

/-- Does a text have a media type? -/
def validate (mediaType text : String) : Except Problem Unit :=
  let s := essence mediaType
  match Format.ofEssence? s with
  | none => .ok ()
  | some format =>
    match format.check text with
    | .ok () => .ok ()
    | .error fault => .error (.invalidOutput s (.decode fault))

theorem validate_of_format_none {m : String} (h : Format.ofEssence? (essence m) = none)
    (text : String) : validate m text = .ok () := by
  -- The equation that `unfold` would use is dear: its proof evaluates the tests of the essence.
  delta validate
  simp only [h]

theorem validate_of_format_some {m : String} {format : Format}
    (h : Format.ofEssence? (essence m) = some format) (text : String) :
    validate m text =
      (format.check text).mapError fun fault => .invalidOutput (essence m) (.decode fault) := by
  delta validate
  simp only [h]
  cases format.check text <;> rfl

theorem validate_congr {m m' : String} (h : essence m = essence m') (text : String) :
    validate m text = validate m' text := by
  delta validate
  rw [h]

/-- A text is accepted, or refused with the essence of the media type. -/
theorem validate_cases (m text : String) :
    validate m text = .ok () ∨
      ∃ reason, validate m text = .error (.invalidOutput (essence m) reason) := by
  cases hformat : Format.ofEssence? (essence m) with
  | none => exact .inl (validate_of_format_none hformat text)
  | some format =>
    rw [validate_of_format_some hformat]
    cases format.check text with
    | ok _ => exact .inl rfl
    | error fault => exact .inr ⟨.decode fault, rfl⟩

end TemplateCheck.MediaType

namespace TemplateCheck.Template

/-- Does a text have the media type of the output of a template? -/
def validateOutput (t : Template) (text : String) : Except Problem Unit :=
  MediaType.validate t.mediaType text

end TemplateCheck.Template
