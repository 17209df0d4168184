import TemplateCheck.Proofs.Interpolation
import TemplateCheck.Proofs.Success
import TemplateCheck.Proofs.Template.Exec

/-!
# Relaxing the policy for missing values

Parsers that differ only in their policy for missing values read the same templates, and what one of
them renders under its policy is rendered the same under a laxer one. So to relax the policy never
changes a text that was rendered before, and never makes a rendering fail.

* `MissingKey.laxity` — how much a policy permits;
* `Parser.ofSettings_relaxed`, `Parser.parse_relaxed` — parsers that differ in the policy only;
* `Template.render_relaxed` — templates that differ in the policy only;
* `Parser.relaxing_keeps_texts` — a rendering under a laxer policy.
-/

namespace TemplateCheck

/-! ### Policies -/

/-- How much a policy permits: nothing, to use a missing value, or to look into it too. -/
def MissingKey.laxity : MissingKey → Nat
  | .error => 0
  | .zero => 1
  | .default => 1
  | .invalid => 2

theorem MissingKey.relaxedTo_of_laxity_le {a b : MissingKey} (h : a.laxity ≤ b.laxity) :
    a.policy.RelaxedTo b.policy where
  accepts hb := by
    cases a <;> cases b <;> simp_all [laxity, policy]
  looksInto ha := by
    cases a <;> cases b <;> simp_all [laxity, policy]

/-! ### Templates -/

/-- A template that is rendered under a policy is rendered to the same text under a laxer one. -/
theorem Template.render_relaxed {t : Template} {policy : Policy} (h : t.policy.RelaxedTo policy)
    {model : Model} {text : String} (ht : t.render model = .ok text) :
    Template.render { t with policy } model = .ok text := by
  rw [render] at ht ⊢
  split at ht
  · rename_i found hfound
    have hrelaxed : (setting { t with policy } model).render policy = .ok found :=
      Setting.render_stable (t.setting model) h hfound
    rw [hrelaxed]
    exact ht
  · cases ht

/-! ### Parsers -/

namespace Parser

/-- Settings that differ in the policy only make parsers that differ in it only. -/
theorem ofSettings_relaxed {c : ParserSettings} {k l : Option String} {p q : Parser}
    (hp : ofSettings { c with missingKey := k } = .ok p)
    (hq : ofSettings { c with missingKey := l } = .ok q) :
    q = { p with missingKey := q.missingKey } := by
  obtain ⟨_, -, hp⟩ := bind_ok hp
  obtain ⟨delimiters, hdelimiters, hp⟩ := bind_ok hp
  obtain rfl := Except.ok.inj hp
  obtain ⟨_, -, hq⟩ := bind_ok hq
  obtain ⟨delimiters', hdelimiters', hq⟩ := bind_ok hq
  obtain rfl := Except.ok.inj hq
  obtain rfl : delimiters = delimiters' := Except.ok.inj (hdelimiters.symm.trans hdelimiters')
  rfl

/-- The policy is not asked when a template is read; it is only kept with it. -/
theorem parse_relaxed (p : Parser) (missingKey : MissingKey) (name source : String) :
    parse { p with missingKey } name source =
      (p.parse name source).map fun t => { t with policy := missingKey.policy } := by
  unfold parse
  cases Template.Program.compile p.delimiters source with
  | error fault => rfl
  | ok program => rfl

theorem policy_of_parse {p : Parser} {name source : String} {t : Template}
    (h : p.parse name source = .ok t) : t.policy = p.missingKey.policy := by
  rw [parse] at h
  split at h
  · rw [← Except.ok.inj h]
  · cases h

/-- Parsers whose settings differ only in the policy for missing values read the same templates, or
refuse them for the same problem. Where the policy of the second parser is not stricter, it renders
what the first one renders, to the same text. -/
theorem relaxing_keeps_texts (c : ParserSettings) {k l : Option String} {p q : Parser}
    (hp : ofSettings { c with missingKey := k } = .ok p)
    (hq : ofSettings { c with missingKey := l } = .ok q) (name source : String) :
    q.parse name source =
        ((p.parse name source).map fun t => { t with policy := q.missingKey.policy }) ∧
      (p.missingKey.laxity ≤ q.missingKey.laxity →
        ∀ t model text, p.parse name source = .ok t → t.render model = .ok text →
          ∃ u, q.parse name source = .ok u ∧ u.render model = .ok text) := by
  have hparse : q.parse name source =
      (p.parse name source).map fun t => { t with policy := q.missingKey.policy } := by
    conv_lhs => rw [ofSettings_relaxed hp hq]
    exact parse_relaxed p q.missingKey name source
  refine ⟨hparse, fun hlax t model text ht htext => ?_⟩
  have hrelaxed : t.policy.RelaxedTo q.missingKey.policy := by
    rw [policy_of_parse ht]
    exact MissingKey.relaxedTo_of_laxity_le hlax
  refine ⟨{ t with policy := q.missingKey.policy }, ?_, Template.render_relaxed hrelaxed htext⟩
  rw [hparse, ht]
  rfl

/-- The template `{{ a }}!`, as a parser without settings but for the policy reads it. -/
def exclamation (missingKey : MissingKey) : Template where
  name := "t"
  configuredType := none
  program := ⟨[.print 1 (.var 1 "a"), .text "!"]⟩
  functions := KeyMap.empty
  describe := .none
  escaping := false
  policy := missingKey.policy

open Template in
theorem fits_exclamation : ∀ piece ∈ [Piece.name "a", .text ['!']],
    piece.Fits Delimiters.standard KeyMap.empty := by
  simp only [List.forall_mem_cons]
  exact ⟨⟨⟨⟨'a', [], by simp⟩, by decide⟩, rfl⟩, Delimiters.bare_standard (by simp), by simp⟩

theorem relaxing_keeps_texts_exclamation :
    ∃ p q, ofSettings { ParserSettings.default with missingKey := some "zero" } = .ok p ∧
      ofSettings { ParserSettings.default with missingKey := some "invalid" } = .ok q ∧
      p.missingKey.laxity ≤ q.missingKey.laxity ∧
      p.parse "t" "\x7b\x7b a \x7d\x7d!" = .ok (exclamation .zero) ∧
      (exclamation .zero).render KeyMap.empty = .ok "!" ∧
      ∃ u, q.parse "t" "\x7b\x7b a \x7d\x7d!" = .ok u ∧ u.render KeyMap.empty = .ok "!" := by
  let p : Parser := ⟨.text, .zero, Template.Delimiters.standard, none, KeyMap.empty, .none⟩
  let q : Parser := { p with missingKey := .invalid }
  have hp : ofSettings { ParserSettings.default with missingKey := some "zero" } = .ok p := by rfl
  have hq : ofSettings { ParserSettings.default with missingKey := some "invalid" } = .ok q := by
    rfl
  have hlax : p.missingKey.laxity ≤ q.missingKey.laxity := by decide
  have hdrawn := Template.Delimiters.drawn_standard
  have hcompile := Template.Program.compile_pieces hdrawn fits_exclamation
  have ht : p.parse "t" "\x7b\x7b a \x7d\x7d!" = .ok (exclamation .zero) := by
    have hsource : "\x7b\x7b a \x7d\x7d!" = String.ofList
        ([Template.Piece.name "a", .text ['!']].flatMap (·.source .standard)) := by
      rfl
    rw [parse, hsource, hcompile]
    rfl
  have hengine : (exclamation .zero).escaping = decide (Engine.text = .html) := rfl
  have hlenient : (exclamation .zero).policy ≠ .strict := by decide
  have htext : (exclamation .zero).render KeyMap.empty = .ok "!" :=
    Template.render_of_present hdrawn rfl hengine fits_exclamation (fun _ _ => .inl rfl)
      (.inl hlenient)
  exact ⟨p, q, hp, hq, hlax, ht, htext,
    (relaxing_keeps_texts _ hp hq "t" "\x7b\x7b a \x7d\x7d!").2 hlax _ _ "!" ht htext⟩

end Parser

end TemplateCheck
