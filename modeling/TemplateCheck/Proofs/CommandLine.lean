import TemplateCheck.Proofs.Selection

/-!
# Patterns on the command line

A pattern on the command line is to mean what it means in a configuration file. But the value of an
option is cut at its commas, and so it is a list of patterns, each without a comma.

* `Text.splitAt_singleton` — a text cut at each occurrence of a character;
* `CommandLine.read_templates`, `CommandLine.read_samples` — the arguments in a single option;
* `Arguments.PutsFirst`, `Arguments.AddsSamples` — what patterns are to do to a configuration;
* `CommandLine.MeansSame` — a pattern does so in both options;
* `CommandLine.meansSame_iff` — which patterns do.
-/

namespace TemplateCheck.Text

theorem pieces_singleton (c : Char) (cs : List Char) : pieces [c] 0 cs = cs.splitOn c := by
  induction cs with
  | nil => rw [pieces, List.splitOn_nil]
  | cons d cs ih =>
    rw [List.splitOn_cons_eq_if_modifyHead]
    obtain ⟨piece, rest, hsplit⟩ := List.exists_cons_of_ne_nil (List.splitOn_ne_nil c cs)
    by_cases h : d = c
    · simp [pieces, h, ih]
    · simp [pieces, h, Ne.symm h, ih, hsplit]

theorem splitAt_singleton (c : Char) (cs : List Char) : splitAt [c] cs = cs.splitOn c :=
  pieces_singleton c cs

end TemplateCheck.Text

namespace TemplateCheck

namespace CommandLine

/-! ### Reading a single option -/

/-- The pieces of a text between its commas. -/
def betweenCommas (value : String) : List String :=
  (value.toList.splitOn ',').map String.ofList

theorem patterns_eq (value : String) : patterns value = betweenCommas value := by
  rw [patterns, Text.splitAt_singleton, betweenCommas]

theorem betweenCommas_ne_nil (value : String) : betweenCommas value ≠ [] := by
  rw [betweenCommas, ne_eq, List.map_eq_nil_iff]
  exact List.splitOn_ne_nil _ _

theorem betweenCommas_of_not_mem {value : String} (h : ',' ∉ value.toList) :
    betweenCommas value = [value] := by
  rw [betweenCommas, List.splitOn_eq_singleton h, List.map_singleton, String.ofList_toList]

/-- A long option with an equals sign has what follows that sign as its value. -/
theorem readLong_setting {name value : List Char} {setting : Setting} (hname : '=' ∉ name)
    (hflag : Flag.ofName? (String.ofList name) = some (.setting setting)) (s : State) :
    readLong (name ++ '=' :: value) s = set setting (some (String.ofList value)) s := by
  have htake : (name ++ '=' :: value).takeWhile (· != '=') = name := by
    rw [List.takeWhile_append_of_pos, List.takeWhile_cons_of_neg] <;> simp
    rintro c hc rfl
    exact hname hc
  rw [readLong, htake, List.drop_left, hflag]

theorem readWords_setting (setting : Setting) (name value : String) {word : String}
    (hword : word.toList = '-' :: '-' :: (name.toList ++ '=' :: value.toList))
    (hname : '=' ∉ name.toList) (hflag : Flag.ofName? name = some (.setting setting)) :
    readWords [word] start = (give setting value start).bind settle := by
  have hset : readLong (name.toList ++ '=' :: value.toList) start = give setting value start := by
    rw [← String.ofList_toList (s := name)] at hflag
    rw [readLong_setting hname hflag, String.ofList_toList]
    rfl
  -- There is at least the equals sign, so that the word is not taken for two dashes alone.
  obtain ⟨c, cs, hcons⟩ : ∃ c cs, name.toList ++ '=' :: value.toList = c :: cs :=
    List.exists_cons_of_ne_nil (by simp)
  rw [hcons] at hset
  rw [readWords, hword, hcons]
  simp only [hset]
  cases give setting value start with
  | error fault => rfl
  | ok s => rfl

theorem read_templates (value : String) :
    read ["--templates=" ++ value] =
      .ok { Arguments.default with templates := betweenCommas value } := by
  have hwords : readWords ["--templates=" ++ value] start =
      .ok { start with
              arguments := { Arguments.default with templates := betweenCommas value } } := by
    rw [readWords_setting .templates "templates" value (by simp) (by decide) (by decide), give,
      patterns_eq]
    rfl
  rw [read, hwords]
  rfl

theorem read_samples (value : String) :
    read ["--samples=" ++ value] =
      .ok { Arguments.default with samples := betweenCommas value } := by
  have hwords : readWords ["--samples=" ++ value] start =
      .ok { start with
              arguments := { Arguments.default with samples := betweenCommas value } } := by
    rw [readWords_setting .samples "samples" value (by simp) (by decide) (by decide), give,
      patterns_eq]
    rfl
  rw [read, hwords]
  rfl

end CommandLine

/-! ### What patterns are to do -/

namespace Arguments

/-- With every configuration, the arguments put one entry in front of its selector, which matches
what `m` does, and nothing else goes wrong than in the configuration itself. -/
structure PutsFirst (a : Arguments) (m : Matcher) : Prop where
  error_iff : ∀ (c : Config) (p : Problem),
    (a.applyTo c).selector = .error p ↔ c.selector = .error p
  ok : ∀ (c : Config) (own : Selector), c.selector = .ok own →
    ∃ entry : SelectorEntry, (a.applyTo c).selector = .ok ⟨entry :: own.entries⟩ ∧
      ∀ name, entry.matcher.isMatch name = m.isMatch name

/-- With every configuration, the arguments add what `m` matches to its samples, and nothing else
goes wrong than in the configuration itself. -/
structure AddsSamples (a : Arguments) (m : Matcher) : Prop where
  error_iff : ∀ (c : Config) (p : Problem),
    (a.applyTo c).sampleMatcher = .error p ↔ c.sampleMatcher = .error p
  ok : ∀ (c : Config) (own : Matcher), c.sampleMatcher = .ok own →
    ∃ all : Matcher, (a.applyTo c).sampleMatcher = .ok all ∧
      ∀ name, all.isMatch name = (own.isMatch name || m.isMatch name)

variable {a : Arguments} {m m' : Matcher}

theorem putsFirst_of_ofPatterns (hne : a.templates ≠ [])
    (h : Matcher.ofPatterns a.templates = .ok m')
    (hsame : ∀ name, m'.isMatch name = m.isMatch name) : a.PutsFirst m where
  error_iff c p := by
    rw [selector_applyTo hne, h]
    cases c.selector with
    | error q => rfl
    | ok own => simp [bind, Except.bind, pure, Except.pure]
  ok c own hown := by
    rw [selector_applyTo hne, h, hown]
    exact ⟨⟨m', Parser.usual⟩, rfl, hsame⟩

/-- The entry that is put in front of no others is made of the patterns alone. -/
theorem PutsFirst.exists_ofPatterns (hne : a.templates ≠ []) (h : a.PutsFirst m) :
    ∃ m', Matcher.ofPatterns a.templates = .ok m' ∧ ∀ name, m'.isMatch name = m.isMatch name := by
  obtain ⟨entry, hselector, hsame⟩ := h.ok .default ⟨[]⟩ rfl
  rw [selector_applyTo hne] at hselector
  obtain ⟨m', hm', hselector⟩ := bind_ok hselector
  obtain ⟨own, -, hselector⟩ := bind_ok hselector
  obtain ⟨rfl, -⟩ := List.cons.inj (Selector.mk.inj (Except.ok.inj hselector))
  exact ⟨m', hm', hsame⟩

theorem addsSamples_of_ofPatterns (h : Matcher.ofPatterns a.samples = .ok m')
    (hsame : ∀ name, m'.isMatch name = m.isMatch name) : a.AddsSamples m where
  error_iff c p := by
    rw [sampleMatcher_applyTo, h]
    cases c.sampleMatcher with
    | error q => rfl
    | ok own => simp [bind, Except.bind, pure, Except.pure]
  ok c own hown := by
    rw [sampleMatcher_applyTo, h, hown]
    refine ⟨⟨own.globs ++ m'.globs⟩, rfl, fun name => ?_⟩
    rw [Matcher.isMatch_append, ← hsame]

end Arguments

namespace CommandLine

/-- A pattern means the same in the options for templates and for samples as in a configuration
file, where `m` is the matcher for it. -/
structure MeansSame (pattern : String) (m : Matcher) : Prop where
  templates : ∃ a, read ["--templates=" ++ pattern] = .ok a ∧ a.PutsFirst m
  samples : ∃ a, read ["--samples=" ++ pattern] = .ok a ∧ a.AddsSamples m

theorem meansSame_of_betweenCommas {pattern : String} {m m' : Matcher}
    (h : Matcher.ofPatterns (betweenCommas pattern) = .ok m')
    (hsame : ∀ name, m'.isMatch name = m.isMatch name) : MeansSame pattern m where
  templates :=
    ⟨_, read_templates pattern,
      Arguments.putsFirst_of_ofPatterns (betweenCommas_ne_nil pattern) h hsame⟩
  samples := ⟨_, read_samples pattern, Arguments.addsSamples_of_ofPatterns h hsame⟩

theorem MeansSame.exists_ofPatterns {pattern : String} {m : Matcher} (h : MeansSame pattern m) :
    ∃ m', Matcher.ofPatterns (betweenCommas pattern) = .ok m' ∧
      ∀ name, m'.isMatch name = m.isMatch name := by
  obtain ⟨a, hread, hfirst⟩ := h.templates
  obtain rfl := Except.ok.inj ((read_templates pattern).symm.trans hread)
  exact hfirst.exists_ofPatterns (betweenCommas_ne_nil pattern)

end CommandLine

end TemplateCheck
