import TemplateCheck.Selector
import TemplateCheck.Decode.OfToml
import TemplateCheck.Decode.OfYaml
import TemplateCheck.Decode.Settings
import TemplateCheck.FileTree.Search

/-!
# Configuration files

* `Config.ofYaml`, `Config.ofToml` — the configuration in a text;
* `Config.read` — the configuration in a file, in the format that the name of the file says;
* `Config.discover` — the nearest configuration file above a directory;
* `Config.load` — that file, and the configuration in it.
-/

namespace TemplateCheck.Config

/-- The names of configuration files; in one directory an earlier name comes first. -/
def fileNames : List String :=
  [".thoth.yaml", ".thoth.yml", ".thoth.toml"]

/-- The configuration in a text of YAML. A text of blanks says nothing. -/
def ofYaml (text : String) : Decoded Config :=
  if text.toList.all Text.isBlank then .ok default
  else Yaml.decode Format.ofYaml.config text

/-- The configuration in a text of TOML. -/
def ofToml (text : String) : Decoded Config :=
  Toml.decode Format.ofToml.config text

/-- The text of a file. -/
def textAt (top : FileTree.Node) (path : String) : Except Problem String :=
  match FileTree.bytesAt top path with
  | .error fault => .error (.io fault)
  | .ok bytes =>
    match Text.Utf8.decode bytes with
    | .error _ => .error (.io .notText)
    | .ok text => .ok text

/-- Does the name of a file say that it is TOML? -/
def isTomlName (path : String) : Bool :=
  (Path.extension? path).any fun e => e.toList.map Char.toLower == "toml".toList

/-- The configuration in a file, seen from the working directory `cwd`. A file is YAML unless its
name says otherwise. -/
def read (top : FileTree.Node) (cwd path : String) : Except Problem Config := do
  let text ← textAt top (Path.join cwd path)
  match if isTomlName path then ofToml text else ofYaml text with
  | .ok c => return c
  | .error fault => throw (.configParse path (.decode fault))

/-- The configuration file in the directory `start`, seen from the working directory `cwd`, or in
the nearest directory above it that has one. -/
def discover (top : FileTree.Node) (cwd start : String) : Except Problem (Option String) :=
  Search.upward cwd start [Search.firstFile top fileNames]

/-- The nearest configuration file, and the configuration in it. -/
def load (top : FileTree.Node) (cwd start : String) :
    Except Problem (Option (String × Config)) := do
  match ← discover top cwd start with
  | none => return none
  | some path => return some (path, ← read top cwd path)

end TemplateCheck.Config
