import TemplateCheck.Decode.OfToml
import TemplateCheck.Decode.OfYaml
import TemplateCheck.Decode.Settings
import TemplateCheck.FileTree.Basic
import TemplateCheck.Json.Reader
import TemplateCheck.Problem

/-!
# Samples

Samples are files that hold models to render templates with. They are registered by name, read when
they are first needed, and kept.

* `SampleFormat`, `Sample.decode` — the model in the bytes of a sample;
* `Sample.belongsTo` — is a sample meant for a template?
* `Samples` — the registered samples;
* `Samples.add`, `Samples.matching`, `Samples.load` — registration, those for a template, and the
  model of one.

What a sample was found to be is kept, a fault as well as a model; only a file that cannot be read
is tried again.
-/

namespace TemplateCheck

/-! ### Decoding -/

/-- The formats of samples. -/
inductive SampleFormat where
  | json
  | yaml
  | toml
deriving Repr, DecidableEq

/-- The format with a name. -/
def SampleFormat.ofName? (s : String) : Option SampleFormat :=
  [("json", .json), ("yaml", .yaml), ("yml", .yaml), ("toml", .toml)].lookup s

/-- The model in a text. -/
def SampleFormat.read : SampleFormat → String → Decoded Model
  | .json, text => Model.read text
  | .yaml, text => Yaml.decode Format.ofYaml.model text
  | .toml, text => Toml.decode Format.ofToml.model text

namespace Sample

/-- The name of the format that the name of a file says. -/
def formatName (path : String) : String :=
  String.ofList (((Path.extension? path).getD "").toList.map Char.toLower)

/-- The model in the bytes of the file at a path. -/
def decode (path : String) (bytes : List UInt8) : Except Reason Model :=
  match Text.Utf8.decode bytes with
  | .error fault => .error (.notText fault)
  | .ok text =>
    match SampleFormat.ofName? (formatName path) with
    | none => .error (.sampleFormat (formatName path))
    | some format =>
      match format.read text with
      | .ok m => .ok m
      | .error fault => .error (.decode fault)

/-- The directory and the file name of a relative name. -/
def splitName (name : String) : String × String :=
  (Path.splitLast? '/' name).getD ("", name)

/-- A file name without what stands behind its last dot. -/
def stem (file : String) : String :=
  match Path.splitLast? '.' file with
  | some (front, _) => front
  | none => file

/-- Is a sample meant for a template? Both are in one directory, and the file name of the sample
begins with that of the template, or with its stem. -/
def belongsTo (template sample : String) : Bool :=
  let (templateDir, file) := splitName template
  let (sampleDir, sampleFile) := splitName sample
  templateDir == sampleDir && file != "" &&
    (file.toList.isPrefixOf sampleFile.toList
      || (stem file != "" && (stem file).toList.isPrefixOf sampleFile.toList))

end Sample

/-! ### Registered samples -/

/-- The registered samples: where they are, and what those that have been read are. -/
structure Samples where
  paths : KeyMap String
  loaded : KeyMap (Except Reason Model)

namespace Samples

/-- No samples. -/
def empty : Samples := ⟨KeyMap.empty, KeyMap.empty⟩

instance : Inhabited Samples := ⟨empty⟩

/-- The samples with one more, under a name. -/
def add (s : Samples) (name path : String) : Samples :=
  { s with paths := s.paths.insert name path }

/-- The number of samples. -/
def length (s : Samples) : Nat := s.paths.size

/-- Are there no samples? -/
def isEmpty (s : Samples) : Bool := s.paths.entries.isEmpty

/-- The names of the samples for a template, in order. -/
def matching (s : Samples) (template : String) : List String :=
  s.paths.keys.filter (Sample.belongsTo template)

/-- What was found out about a sample, as an answer to who asks for it by name. -/
def answer (name : String) : Except Reason Model → Except Problem Model
  | .ok m => .ok m
  | .error reason => .error (.sampleLoad name reason)

/-- The model of a sample, and the samples after that. The whole fails, and changes nothing, only
if the file cannot be read. -/
def load (s : Samples) (top : FileTree.Node) (name : String) :
    Except Problem (Except Problem Model × Samples) :=
  match s.paths.get? name, s.loaded.get? name with
  | none, _ => .ok (.error (.sampleLoad name .noSample), s)
  | some _, some found => .ok (answer name found, s)
  | some path, none =>
    match FileTree.bytesAt top path with
    | .error fault => .error (.unreadable path fault)
    | .ok bytes =>
      let found := Sample.decode path bytes
      .ok (answer name found, { s with loaded := s.loaded.insert name found })

end Samples

end TemplateCheck
