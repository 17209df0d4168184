import TemplateCheck.Proofs.Selection

/-!
# Earlier settings come first

A selector is made of settings in a row. Whatever is asked of it, earlier settings come before later
ones: in what is wrong with them, and in what the selector picks.

* `SelectorSettings.Refused` — what is wrong with the settings of one entry;
* `Selector.ofSettings_eq_error_iff` — of several, the first that are refused say what is wrong;
* `Selector.Composes` — two lists of settings in a row;
* `Arguments.Completes` — the patterns of a command line and a configuration;
* `selection_composes` — all lists of settings compose, and all arguments complete every
  configuration, in this way.
-/

namespace TemplateCheck

/-! ### What is refused -/

/-- Can a pattern be read? -/
def Matcher.IsReadable (pattern : String) : Prop :=
  ∃ tokens, Glob.read false pattern = .ok tokens

theorem Matcher.isReadable_iff {pattern : String} :
    IsReadable pattern ↔ ∃ glob, readPattern pattern = .ok glob := by
  rw [IsReadable, readPattern]
  cases Glob.read false pattern with
  | error fault => simp
  | ok tokens => simp

theorem Matcher.readPattern_eq_error_iff {pattern : String} {p : Problem} :
    readPattern pattern = .error p ↔
      ∃ fault, Glob.read false pattern = .error fault ∧
        p = .invalidPattern pattern (.glob fault) := by
  rw [readPattern]
  cases Glob.read false pattern with
  | error fault => simp [eq_comm]
  | ok tokens => simp

/-- What is wrong with patterns is what is wrong with the first of them that cannot be read. -/
theorem Matcher.ofPatterns_eq_error_iff {patterns : List String} {p : Problem} :
    ofPatterns patterns = .error p ↔
      ∃ before pattern after fault, patterns = before ++ pattern :: after ∧
        (∀ q ∈ before, IsReadable q) ∧ Glob.read false pattern = .error fault ∧
        p = .invalidPattern pattern (.glob fault) := by
  have hmap : ofPatterns patterns = .error p ↔ patterns.mapM readPattern = .error p := by
    rw [ofPatterns]
    cases patterns.mapM readPattern with
    | error q => simp [Except.map]
    | ok globs => simp [Except.map]
  rw [hmap, mapM_eq_error_iff]
  simp only [readPattern_eq_error_iff, isReadable_iff]
  constructor
  · rintro ⟨before, pattern, after, hpatterns, hbefore, fault, hread, hp⟩
    exact ⟨before, pattern, after, fault, hpatterns, hbefore, hread, hp⟩
  · rintro ⟨before, pattern, after, fault, hpatterns, hbefore, hread, hp⟩
    exact ⟨before, pattern, after, hpatterns, hbefore, fault, hread, hp⟩

theorem Matcher.exists_ofPatterns_iff {patterns : List String} :
    (∃ m, ofPatterns patterns = .ok m) ↔ ∀ pattern ∈ patterns, IsReadable pattern := by
  constructor
  · rintro ⟨m, h⟩ pattern hpattern
    rw [ofPatterns] at h
    cases hglobs : patterns.mapM readPattern with
    | error p => simp [hglobs, Except.map] at h
    | ok globs =>
      obtain ⟨glob, -, hglob⟩ := exists_of_forall₂ (forall₂_of_mapM hglobs).flip pattern hpattern
      exact isReadable_iff.mpr ⟨glob, hglob⟩
  · intro h
    cases hm : ofPatterns patterns with
    | ok m => exact ⟨m, rfl⟩
    | error p =>
      obtain ⟨before, pattern, after, fault, rfl, -, hread, -⟩ := ofPatterns_eq_error_iff.mp hm
      obtain ⟨tokens, htokens⟩ := h pattern (by simp)
      simp [hread] at htokens

/-- What is wrong with the settings of an entry: with the first of its patterns that cannot be read
or, if all of them can, with the settings of its parser. -/
inductive SelectorSettings.Refused (c : SelectorSettings) : Problem → Prop
  | pattern {before after : List String} {pattern : String} {fault : Glob.Fault}
      (patterns : c.patterns = before ++ pattern :: after)
      (readable : ∀ p ∈ before, Matcher.IsReadable p)
      (malformed : Glob.read false pattern = .error fault) :
      Refused c (.invalidPattern pattern (.glob fault))
  | parser {p : Problem} (readable : ∀ pattern ∈ c.patterns, Matcher.IsReadable pattern)
      (refused : Parser.ofSettings c.parser = .error p) : Refused c p

theorem SelectorEntry.ofSettings_eq_error_iff {c : SelectorSettings} {p : Problem} :
    ofSettings c = .error p ↔ c.Refused p := by
  constructor
  · intro h
    rcases bind_error h with h | ⟨m, hm, h⟩
    · obtain ⟨before, pattern, after, fault, hpatterns, hbefore, hread, rfl⟩ :=
        Matcher.ofPatterns_eq_error_iff.mp h
      exact .pattern hpatterns hbefore hread
    · rcases bind_error h with h | ⟨parser, -, h⟩
      · exact .parser (Matcher.exists_ofPatterns_iff.mp ⟨m, hm⟩) h
      · simp [pure, Except.pure] at h
  · intro h
    rw [ofSettings]
    cases h with
    | pattern patterns readable malformed =>
      rw [Matcher.ofPatterns_eq_error_iff.mpr
        ⟨_, _, _, _, patterns, readable, malformed, rfl⟩]
      rfl
    | parser readable refused =>
      obtain ⟨m, hm⟩ := Matcher.exists_ofPatterns_iff.mpr readable
      rw [hm, refused]
      rfl

namespace Selector

/-- What is wrong with several settings is what is wrong with the first of them that are refused. -/
theorem ofSettings_eq_error_iff {cs : List SelectorSettings} {p : Problem} :
    ofSettings cs = .error p ↔
      ∃ before c after, cs = before ++ c :: after ∧ (∀ b ∈ before, ∀ q, ¬ b.Refused q) ∧
        c.Refused p := by
  have hmap : ofSettings cs = .error p ↔ cs.mapM SelectorEntry.ofSettings = .error p := by
    rw [ofSettings]
    cases cs.mapM SelectorEntry.ofSettings with
    | error q => simp [Except.map]
    | ok entries => simp [Except.map]
  have haccepted : ∀ b : SelectorSettings,
      (∃ entry, SelectorEntry.ofSettings b = .ok entry) ↔ ∀ q, ¬ b.Refused q := by
    intro b
    simp only [← SelectorEntry.ofSettings_eq_error_iff]
    cases SelectorEntry.ofSettings b with
    | error q => simp
    | ok entry => simp
  rw [hmap, mapM_eq_error_iff]
  simp only [SelectorEntry.ofSettings_eq_error_iff, haccepted]

/-! ### Settings in a row -/

theorem ofSettings_append (xs ys : List SelectorSettings) :
    ofSettings (xs ++ ys) = do
      let s ← ofSettings xs
      let s' ← ofSettings ys
      return ⟨s.entries ++ s'.entries⟩ := by
  rw [ofSettings, ofSettings, ofSettings, List.mapM_append]
  cases xs.mapM SelectorEntry.ofSettings with
  | error p => rfl
  | ok entries => cases ys.mapM SelectorEntry.ofSettings <;> rfl

/-- Earlier entries are asked before later ones. -/
theorem select?_append (entries entries' : List SelectorEntry) (name : String) :
    select? ⟨entries ++ entries'⟩ name =
      (select? ⟨entries⟩ name).or (select? ⟨entries'⟩ name) := by
  simp only [select?, List.find?_append]
  cases entries.find? (·.matcher.isMatch name) <;> rfl

/-- Settings in a row make a selector unless either of them make none, the earlier ones being looked
at first; and it picks what the earlier ones pick or, where they pick nothing, what the later ones
do. -/
structure Composes (xs ys : List SelectorSettings) : Prop where
  error_iff : ∀ p, ofSettings (xs ++ ys) = .error p ↔
    ofSettings xs = .error p ∨ (∃ s, ofSettings xs = .ok s) ∧ ofSettings ys = .error p
  select : ∀ s, ofSettings (xs ++ ys) = .ok s →
    ∃ s₁ s₂, ofSettings xs = .ok s₁ ∧ ofSettings ys = .ok s₂ ∧
      ∀ name, s.select? name = (s₁.select? name).or (s₂.select? name)

theorem composes (xs ys : List SelectorSettings) : Composes xs ys where
  error_iff p := by
    rw [ofSettings_append]
    cases ofSettings xs with
    | error q => simp [bind, Except.bind]
    | ok s₁ =>
      cases ofSettings ys with
      | error q => simp [bind, Except.bind]
      | ok s₂ => simp [bind, Except.bind, pure, Except.pure]
  select s h := by
    rw [ofSettings_append] at h
    obtain ⟨s₁, hs₁, h⟩ := bind_ok h
    obtain ⟨s₂, hs₂, h⟩ := bind_ok h
    obtain rfl := Except.ok.inj h
    exact ⟨s₁, s₂, hs₁, hs₂, select?_append s₁.entries s₂.entries⟩

end Selector

/-! ### A command line and a configuration -/

namespace Arguments

/-- The patterns of a command line come before the entries of a configuration, with the parser of
which nothing is set, and its samples are added to those of the configuration. -/
structure Completes (a : Arguments) (c : Config) : Prop where
  selector_error_iff : ∀ p, (a.applyTo c).selector = .error p ↔
    Matcher.ofPatterns a.templates = .error p ∨
      (∃ m, Matcher.ofPatterns a.templates = .ok m) ∧ c.selector = .error p
  select : ∀ s, (a.applyTo c).selector = .ok s →
    ∃ m own usual, Matcher.ofPatterns a.templates = .ok m ∧ c.selector = .ok own ∧
      Parser.ofSettings .default = .ok usual ∧
      ∀ name, s.select? name = if m.isMatch name then some usual else own.select? name
  same : a.templates = [] → (a.applyTo c).selector = c.selector
  samples_error_iff : ∀ p, (a.applyTo c).sampleMatcher = .error p ↔
    c.sampleMatcher = .error p ∨
      (∃ own, c.sampleMatcher = .ok own) ∧ Matcher.ofPatterns a.samples = .error p
  samples : ∀ all, (a.applyTo c).sampleMatcher = .ok all →
    ∃ own more, c.sampleMatcher = .ok own ∧ Matcher.ofPatterns a.samples = .ok more ∧
      ∀ name, all.isMatch name = (own.isMatch name || more.isMatch name)

/-- Without patterns for templates, the arguments leave the entries of a configuration alone. -/
theorem selector_applyTo_nil {a : Arguments} (h : a.templates = []) (c : Config) :
    (a.applyTo c).selector = c.selector := by
  have hsettings : (a.applyTo c).templates = c.templates := by
    rw [applyTo, h]
    rfl
  rw [Config.selector, Config.selector, hsettings]

/-- An entry in front is asked first. -/
theorem select?_cons (m : Matcher) (parser : Parser) (entries : List SelectorEntry)
    (name : String) :
    Selector.select? ⟨⟨m, parser⟩ :: entries⟩ name =
      if m.isMatch name then some parser else Selector.select? ⟨entries⟩ name := by
  simp only [Selector.select?, List.find?_cons]
  cases m.isMatch name <;> rfl

theorem completes (a : Arguments) (c : Config) : a.Completes c where
  selector_error_iff p := by
    by_cases hnil : a.templates = []
    · rw [selector_applyTo_nil hnil, hnil]
      simp [Matcher.ofPatterns, Except.map, pure, Except.pure]
    · rw [selector_applyTo hnil]
      cases Matcher.ofPatterns a.templates with
      | error q => simp [bind, Except.bind]
      | ok m =>
        cases c.selector with
        | error q => simp [bind, Except.bind]
        | ok own => simp [bind, Except.bind, pure, Except.pure]
  select s h := by
    by_cases hnil : a.templates = []
    · rw [selector_applyTo_nil hnil] at h
      refine ⟨⟨[]⟩, s, Parser.usual, by rw [hnil]; rfl, h, rfl, fun name => ?_⟩
      simp [Matcher.isMatch]
    · rw [selector_applyTo hnil] at h
      obtain ⟨m, hm, h⟩ := bind_ok h
      obtain ⟨own, hown, h⟩ := bind_ok h
      obtain rfl := Except.ok.inj h
      exact ⟨m, own, Parser.usual, hm, hown, rfl, select?_cons m Parser.usual own.entries⟩
  same hnil := selector_applyTo_nil hnil c
  samples_error_iff p := by
    rw [sampleMatcher_applyTo]
    cases c.sampleMatcher with
    | error q => simp [bind, Except.bind]
    | ok own =>
      cases Matcher.ofPatterns a.samples with
      | error q => simp [bind, Except.bind]
      | ok more => simp [bind, Except.bind, pure, Except.pure]
  samples all h := by
    rw [sampleMatcher_applyTo] at h
    obtain ⟨own, hown, h⟩ := bind_ok h
    obtain ⟨more, hmore, h⟩ := bind_ok h
    obtain rfl := Except.ok.inj h
    exact ⟨own, more, hown, hmore, Matcher.isMatch_append own.globs more.globs⟩

end Arguments

end TemplateCheck
