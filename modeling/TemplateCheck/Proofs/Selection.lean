import TemplateCheck.CommandLine
import TemplateCheck.Proofs.Success

/-!
# Putting patterns together

* `Matcher.ofPatterns_append`, `Matcher.isMatch_append` — the patterns of two lists;
* `Selector.ofSettings_cons` — an entry in front of others;
* `Arguments.selector_applyTo`, `Arguments.sampleMatcher_applyTo` — the selector and the samples of
  a configuration that is completed by arguments.
-/

namespace TemplateCheck

namespace Matcher

theorem ofPatterns_append (ps qs : List String) :
    ofPatterns (ps ++ qs) = do
      let m ← ofPatterns ps
      let m' ← ofPatterns qs
      return ⟨m.globs ++ m'.globs⟩ := by
  rw [ofPatterns, ofPatterns, ofPatterns, List.mapM_append]
  cases ps.mapM readPattern with
  | error p => rfl
  | ok globs => cases qs.mapM readPattern <;> rfl

theorem isMatch_append (globs globs' : List (String × List Glob.Token)) (name : String) :
    isMatch ⟨globs ++ globs'⟩ name = (isMatch ⟨globs⟩ name || isMatch ⟨globs'⟩ name) :=
  List.any_append

end Matcher

namespace Selector

theorem ofSettings_cons (c : SelectorSettings) (cs : List SelectorSettings) :
    ofSettings (c :: cs) = do
      let entry ← SelectorEntry.ofSettings c
      let s ← ofSettings cs
      return ⟨entry :: s.entries⟩ := by
  rw [ofSettings, ofSettings, List.mapM_cons]
  cases SelectorEntry.ofSettings c with
  | error p => rfl
  | ok entry => cases cs.mapM SelectorEntry.ofSettings <;> rfl

end Selector

/-- The parser of which nothing is set. -/
def Parser.usual : Parser :=
  ⟨.text, .error, .standard, none, KeyMap.empty, .none⟩

theorem Parser.ofSettings_default : Parser.ofSettings .default = .ok Parser.usual :=
  rfl

theorem SelectorEntry.ofSettings_default (ps : List String) :
    SelectorEntry.ofSettings ⟨ps, .default⟩ =
      (Matcher.ofPatterns ps).map fun m => ⟨m, Parser.usual⟩ := by
  rw [SelectorEntry.ofSettings, Parser.ofSettings_default]
  cases Matcher.ofPatterns ps <;> rfl

namespace Arguments

/-- The patterns of a command line for templates make an entry in front of all others. -/
theorem selector_applyTo {a : Arguments} (h : a.templates ≠ []) (c : Config) :
    (a.applyTo c).selector = do
      let m ← Matcher.ofPatterns a.templates
      let s ← c.selector
      return ⟨⟨m, Parser.usual⟩ :: s.entries⟩ := by
  have hsettings : (a.applyTo c).templates = ⟨a.templates, .default⟩ :: c.templates := by
    rw [applyTo, if_neg (by simpa using h)]
    rfl
  rw [Config.selector, hsettings, Selector.ofSettings_cons, SelectorEntry.ofSettings_default]
  cases Matcher.ofPatterns a.templates <;> rfl

/-- The patterns of a command line for samples come after those of the configuration. -/
theorem sampleMatcher_applyTo (a : Arguments) (c : Config) :
    (a.applyTo c).sampleMatcher = do
      let own ← c.sampleMatcher
      let more ← Matcher.ofPatterns a.samples
      return ⟨own.globs ++ more.globs⟩ :=
  Matcher.ofPatterns_append c.samples a.samples

end Arguments

end TemplateCheck
