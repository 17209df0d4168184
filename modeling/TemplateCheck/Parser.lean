import TemplateCheck.Problem
import TemplateCheck.Template.Exec
import TemplateCheck.Template.Stmt.Lines
import TemplateCheck.Template.Stmt.Reader
import TemplateCheck.Template.Policy

/-!
# Templates and parsers

A parser turns the source of a template into a template, always with the same settings.

* `Program.compile` — the statements of a template, from its source;
* `Template` — a compiled template with all that it is rendered with;
* `Template.render` — the text of a template for a model;
* `ParserSettings` — what can be configured;
* `Parser.ofSettings` — the parser for settings, if they make sense;
* `Parser.parse` — a template from its source. Nothing is kept from one template to the next.
-/

namespace TemplateCheck

/-! ### Templates -/

/-- The statements of a template, from its source. -/
def Template.Program.compile (d : Template.Delimiters) (source : String) :
    Except (Template.FaultKind × Nat) Template.Program :=
  (Template.Program.ofLexed (d.scan source)).map Template.Program.settled

open Template in
/-- A compiled template. -/
structure Template where
  name : String
  /-- The media type of its output, if one is configured. -/
  configuredType : Option String
  program : Program
  functions : Functions
  describe : Describe
  /-- Is what is printed escaped? -/
  escaping : Bool
  policy : Policy

namespace Template

/-- The media type of the output of a template that has none configured. -/
def defaultMediaType : String := "application/json"

/-- The media type of the output. -/
def mediaType (t : Template) : String :=
  t.configuredType.getD defaultMediaType

/-- The surroundings of a rendering with a model. -/
def setting (t : Template) (model : Model) : Setting where
  name := t.name
  program := t.program
  functions := t.functions
  describe := t.describe
  escaping := t.escaping
  model := KeyMap.ofList (model.entries.map fun (k, j) => (k, Value.ofJson j))

/-- A fault of the template on a line. -/
def fault (t : Template) (kind : FaultKind) (line : Nat) : Problem :=
  .templateRender t.name (.template ⟨kind, t.name, line⟩)

/-- The text of a template for a model. -/
def render (t : Template) (model : Model) : Except Problem String :=
  match (t.setting model).render t.policy with
  | .ok text => .ok text
  | .error (kind, line) => .error (t.fault kind line)

end Template

/-! ### Parsers -/

/-- How the output of a template is escaped. -/
inductive Engine where
  /-- Not at all. -/
  | text
  /-- As text in a document. -/
  | html
deriving Repr, DecidableEq, Inhabited

/-- The name of a way to escape. -/
def Engine.name : Engine → String
  | .text => "text"
  | .html => "html"

/-- The way to escape with a name. -/
def Engine.ofName? (s : String) : Option Engine :=
  if s = "text" then some .text else if s = "html" then some .html else none

/-- The settings of a parser. What is not set has a default. -/
structure ParserSettings where
  engine : Engine
  missingKey : Option String
  leftDelim : Option String
  rightDelim : Option String
  mediaType : Option String
  functions : Template.Functions
  /-- What a template is told that asks for the state of its rendering. -/
  describe : Template.Describe

/-- Settings of which nothing is set, and by which nothing is told of the state of a rendering. -/
def ParserSettings.default : ParserSettings where
  engine := .text
  missingKey := none
  leftDelim := none
  rightDelim := none
  mediaType := none
  functions := KeyMap.empty
  describe := .none

instance : Inhabited ParserSettings := ⟨.default⟩

/-- A set text that is not empty. -/
def filled (s : Option String) : Option String :=
  s.filter (· != "")

/-- The marks around expressions: each side that is not set, or empty, is the usual one. The mark in
front must differ from those of statements and comments. -/
def ParserSettings.delimiters (c : ParserSettings) : Except Problem Template.Delimiters :=
  let usual := Template.Delimiters.standard
  let left := ((filled c.leftDelim).map String.toList).getD usual.left
  let right := ((filled c.rightDelim).map String.toList).getD usual.right
  if left = Template.Token.blockStart ∨ left = Template.Token.commentStart then
    .error (.invalidDelimiters (String.ofList left) (String.ofList right) .delimiters)
  else .ok { left, right }

/-- A parser. -/
structure Parser where
  engine : Engine
  missingKey : MissingKey
  delimiters : Template.Delimiters
  mediaType : Option String
  functions : Template.Functions
  describe : Template.Describe

namespace Parser

/-- The parser for settings. -/
def ofSettings (c : ParserSettings) : Except Problem Parser := do
  let missingKey ← MissingKey.resolve c.missingKey
  let delimiters ← c.delimiters
  return ⟨c.engine, missingKey, delimiters, filled c.mediaType, c.functions, c.describe⟩

/-- The template with a name, from its source. -/
def parse (p : Parser) (name source : String) : Except Problem Template :=
  match Template.Program.compile p.delimiters source with
  | .ok program =>
    .ok
      { name
        configuredType := p.mediaType
        program
        functions := p.functions
        describe := p.describe
        escaping := p.engine = .html
        policy := p.missingKey.policy }
  | .error (kind, line) => .error (.templateParse name (.template ⟨kind, name, line⟩))

end Parser

end TemplateCheck
