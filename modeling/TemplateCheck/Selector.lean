import TemplateCheck.Glob.Matcher
import TemplateCheck.Parser
import TemplateCheck.KeyValues.Basic

/-!
# Selectors and configurations

A selector picks the parser for a template by its name. A configuration is all that a check of a
directory tree can be told, its selector included.

* `SelectorSettings` — patterns, and the settings of the parser for what they match;
* `Selector.ofSettings` — the selector for such settings, unless one of them makes no sense;
* `Selector.select?` — the parser for a name: that of the first entry whose patterns match it;
* `Config` — a configuration; `Config.selector`, `Config.sampleMatcher` — what it says to look for.
-/

namespace TemplateCheck

/-- Patterns, and the settings of the parser for what they match. -/
structure SelectorSettings where
  patterns : List String
  parser : ParserSettings

/-- Settings of which nothing is set. -/
def SelectorSettings.default : SelectorSettings where
  patterns := []
  parser := .default

/-- A parser for what some patterns match. -/
structure SelectorEntry where
  matcher : Matcher
  parser : Parser

/-- Entries that are asked one after the other. -/
structure Selector where
  entries : List SelectorEntry

/-- The entry for settings. Its patterns are looked at before its parser. -/
def SelectorEntry.ofSettings (c : SelectorSettings) : Except Problem SelectorEntry := do
  let matcher ← Matcher.ofPatterns c.patterns
  let parser ← Parser.ofSettings c.parser
  return { matcher, parser }

namespace Selector

/-- The selector for settings, in their order. -/
def ofSettings (cs : List SelectorSettings) : Except Problem Selector :=
  (cs.mapM SelectorEntry.ofSettings).map Selector.mk

/-- The parser for a name, if some entry matches it. -/
def select? (s : Selector) (name : String) : Option Parser :=
  (s.entries.find? (·.matcher.isMatch name)).map (·.parser)

/-- The number of entries. -/
def length (s : Selector) : Nat := s.entries.length

/-- Has the selector no entries? -/
def isEmpty (s : Selector) : Bool := s.entries.isEmpty

end Selector

/-! ### Configurations -/

/-- A configuration. -/
structure Config where
  /-- Patterns for the files that hold samples. -/
  samples : List String
  /-- Which files are templates, and their parsers, asked in order. -/
  templates : List SelectorSettings
  /-- Values that a sample gets if it lacks them. -/
  defaults : Model
  /-- Values that every sample gets. -/
  overrides : Model
  /-- Are files left out that a `.gitignore` file names? -/
  gitignore : Bool

namespace Config

/-- A configuration that says nothing. -/
def default : Config where
  samples := []
  templates := []
  defaults := KeyMap.empty
  overrides := KeyMap.empty
  gitignore := false

instance : Inhabited Config := ⟨default⟩

/-- The matcher for the files that hold samples. -/
def sampleMatcher (c : Config) : Except Problem Matcher :=
  Matcher.ofPatterns c.samples

/-- The selector for the files that are templates. -/
def selector (c : Config) : Except Problem Selector :=
  Selector.ofSettings c.templates

/-- The values that a sample gets if it lacks them. -/
def defaultValues (c : Config) : KeyValues :=
  KeyValues.ofModel c.defaults

/-- The values that every sample gets. -/
def overrideValues (c : Config) : KeyValues :=
  KeyValues.ofModel c.overrides

end Config

end TemplateCheck
