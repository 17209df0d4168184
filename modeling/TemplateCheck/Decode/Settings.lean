import TemplateCheck.Selector
import TemplateCheck.Decode.Format

/-!
# Decoding of configurations

Each part of a configuration is a record all of whose fields may be left out.
-/

namespace TemplateCheck.Format

variable {ν : Type}

/-- The settings of a parser. -/
def parserSettings (f : Format ν) : ν → Decoded ParserSettings :=
  f.record
    [("engine", fun n c => return { c with engine := ← f.choice Engine.ofName? n }),
     ("missingKey", fun n c => return { c with missingKey := ← f.optional f.string n }),
     ("leftDelim", fun n c => return { c with leftDelim := ← f.optional f.string n }),
     ("rightDelim", fun n c => return { c with rightDelim := ← f.optional f.string n }),
     ("mediaType", fun n c => return { c with mediaType := ← f.optional f.string n })]
    ParserSettings.default

/-- The settings of an entry of a selector. -/
def selectorSettings (f : Format ν) : ν → Decoded SelectorSettings :=
  f.record
    [("patterns", fun n c => return { c with patterns := ← f.list f.string n }),
     ("parser", fun n c => return { c with parser := ← f.parserSettings n })]
    SelectorSettings.default

/-- Named values. Of two values with one name the later one counts. -/
def model (f : Format ν) (n : ν) : Decoded Model :=
  (f.members n).map KeyMap.ofList

/-- A configuration. -/
def config (f : Format ν) : ν → Decoded Config :=
  f.record
    [("samples", fun n c => return { c with samples := ← f.list f.string n }),
     ("templates", fun n c => return { c with templates := ← f.list f.selectorSettings n }),
     ("defaults", fun n c => return { c with defaults := ← f.model n }),
     ("overrides", fun n c => return { c with overrides := ← f.model n }),
     ("gitignore", fun n c => return { c with gitignore := ← f.bool n })]
    Config.default

end TemplateCheck.Format
