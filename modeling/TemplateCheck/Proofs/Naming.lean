import TemplateCheck.Parser
import TemplateCheck.Proofs.Success
import TemplateCheck.Proofs.Template.Renamed

/-!
# The name of a template

Whether a template escapes what it prints is for its parser to say, and its name has no part in
that, whatever it ends in. A template that uses no other one is read, rendered, and refused alike
under every name; only what tells of a fault says another name. (A template that does use another
one may find itself by its name; and what a template is told of the state of its rendering is taken
to be the same under all names.)

* `Template.render_renamed` — the text of a template under another name;
* `Parser.naming_changes_nothing` — parsing and rendering under two names.
-/

namespace TemplateCheck

/-- A template that stands alone has the same text under another name, or the same fault, which
tells the other name. -/
theorem Template.render_renamed {t : Template} (h : t.program.standsAlone) (name : String)
    (model : Model) :
    (∃ text, t.render model = .ok text ∧ Template.render { t with name } model = .ok text) ∨
      ∃ kind line, t.render model = .error (t.fault kind line) ∧
        Template.render { t with name } model =
          .error (Template.fault { t with name } kind line) := by
  have hrenamed : (setting { t with name } model).render t.policy =
      (t.setting model).render t.policy :=
    Setting.render_renamed (s := t.setting model) name h t.policy
  rw [render, render, hrenamed]
  cases (t.setting model).render t.policy with
  | ok text => exact .inl ⟨text, rfl, rfl⟩
  | error fault => exact .inr ⟨fault.1, fault.2, rfl, rfl⟩

namespace Parser

/-- Of a source that uses no other template, a parser makes a template under both of two names or
under neither. It escapes what it prints if the parser is set so, and for every model it has the
same text under both names, or fails with the same kind of fault on the same line, which tells the
name. -/
theorem naming_changes_nothing (p : Parser) (source : String)
    (halone : ∀ program, Template.Program.compile p.delimiters source = .ok program →
      program.standsAlone) (n n' : String) :
    (∃ kind line,
      p.parse n source = .error (.templateParse n (.template ⟨kind, n, line⟩)) ∧
        p.parse n' source = .error (.templateParse n' (.template ⟨kind, n', line⟩))) ∨
    ∃ t t', p.parse n source = .ok t ∧ p.parse n' source = .ok t' ∧
      t.escaping = decide (p.engine = .html) ∧ t'.escaping = decide (p.engine = .html) ∧
      ∀ model,
        (∃ text, t.render model = .ok text ∧ t'.render model = .ok text) ∨
        ∃ kind line,
          t.render model = .error (.templateRender n (.template ⟨kind, n, line⟩)) ∧
            t'.render model = .error (.templateRender n' (.template ⟨kind, n', line⟩)) := by
  cases hcompile : Template.Program.compile p.delimiters source with
  | error fault =>
    refine .inl ⟨fault.1, fault.2, ?_, ?_⟩
    · rw [parse, hcompile]
    · rw [parse, hcompile]
  | ok program =>
    let t : Template :=
      { name := n, configuredType := p.mediaType, program, functions := p.functions
        describe := p.describe, escaping := p.engine = .html, policy := p.missingKey.policy }
    refine .inr ⟨t, { t with name := n' }, ?_, ?_, rfl, rfl, fun model => ?_⟩
    · rw [parse, hcompile]
    · rw [parse, hcompile]
    · exact Template.render_renamed (t := t) (halone program hcompile) n' model

/-- A routine that prints its argument, and a call of it. -/
def printing : String :=
  "\x7b% macro m(x) %\x7d\x7b\x7b x \x7d\x7d\x7b% endmacro %\x7d\x7b\x7b m(a) \x7d\x7d"

/-- A parser of which nothing is set but that it escapes. -/
def escapingParser : Parser :=
  ⟨.html, .error, Template.Delimiters.standard, none, KeyMap.empty, .none⟩

theorem naming_changes_nothing_printing :
    (∀ program, Template.Program.compile escapingParser.delimiters printing = .ok program →
      program.standsAlone) ∧
    ∃ t t', escapingParser.parse "a.html" printing = .ok t ∧
      escapingParser.parse "a.txt" printing = .ok t' ∧
      ∀ model,
        (∃ text, t.render model = .ok text ∧ t'.render model = .ok text) ∨
        ∃ kind line,
          t.render model = .error (.templateRender "a.html" (.template ⟨kind, "a.html", line⟩)) ∧
            t'.render model =
              .error (.templateRender "a.txt" (.template ⟨kind, "a.txt", line⟩)) := by
  have hcompile : ((Template.Program.compile escapingParser.delimiters printing).toOption.map
      (·.standsAlone)) = some true := by
    decide +kernel
  obtain ⟨program, hprogram, hstandsAlone⟩ := Option.map_eq_some_iff.mp hcompile
  have hread := eq_ok_of_toOption hprogram
  have halone : ∀ program, Template.Program.compile escapingParser.delimiters printing =
      .ok program → program.standsAlone := by
    intro program' h
    obtain rfl := Except.ok.inj (hread.symm.trans h)
    exact hstandsAlone
  refine ⟨halone, ?_⟩
  rcases naming_changes_nothing escapingParser printing halone "a.html" "a.txt" with
    ⟨kind, line, herror, -⟩ | ⟨t, t', ht, ht', -, -, hrender⟩
  · rw [parse, hread] at herror
    cases herror
  · exact ⟨t, t', ht, ht', hrender⟩

end Parser

end TemplateCheck
