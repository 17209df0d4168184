import TemplateCheck.Selector
import TemplateCheck.Text.Pieces

/-!
# The command line

* `Switch`, `Setting` — the options without a value, and those with one;
* `Arguments` — what a command line says;
* `CommandLine.read` — the arguments in a list of words;
* `Arguments.applyTo` — a configuration completed by arguments.

Words are read from the front to the back. An option is taken into account only when the next one
comes, or at the end, so the fault of a word that is no option at all comes before that of the
option in front of it.
-/

namespace TemplateCheck

/-! ### Options -/

/-- An option without a value. -/
inductive Switch where
  | verbose
  | noConfig
  | noColour
  | help
  | version
deriving Repr, DecidableEq

/-- An option with a value. -/
inductive Setting where
  | root
  | config
  | samples
  | templates
  | format
deriving Repr, DecidableEq

/-- An option. -/
inductive Flag where
  | switch (s : Switch)
  | setting (s : Setting)
deriving Repr, DecidableEq

/-- The option with a long name. -/
def Flag.ofName? (name : String) : Option Flag :=
  [("root", .setting .root), ("verbose", .switch .verbose), ("no-cfg", .switch .noConfig),
    ("cfg", .setting .config), ("samples", .setting .samples),
    ("templates", .setting .templates), ("format", .setting .format),
    ("no-color", .switch .noColour), ("help", .switch .help),
    ("version", .switch .version)].lookup name

/-- The option with a short name. -/
def Flag.ofLetter? (c : Char) : Option Flag :=
  [('R', .setting .root), ('v', .switch .verbose), ('s', .setting .samples),
    ('t', .setting .templates), ('h', .switch .help), ('V', .switch .version)].lookup c

/-- How a report is written. -/
inductive OutputFormat where
  | text
  | json
deriving Repr, DecidableEq

/-- The name of a way to write a report. -/
def OutputFormat.name : OutputFormat → String
  | .text => "text"
  | .json => "json"

/-- The way to write a report with a name. -/
def OutputFormat.ofName? (s : String) : Option OutputFormat :=
  if s = "text" then some .text else if s = "json" then some .json else none

/-- What a command line says. -/
structure Arguments where
  /-- The root directory, in which variables may be named. -/
  root : String
  verbose : Bool
  /-- Are configuration files left alone? -/
  noConfig : Bool
  /-- The configuration file, instead of the nearest one. -/
  config : Option String
  samples : List String
  templates : List String
  format : OutputFormat
  noColour : Bool
deriving Repr, DecidableEq

/-- What an empty command line says. -/
def Arguments.default : Arguments where
  root := "."
  verbose := false
  noConfig := false
  config := none
  samples := []
  templates := []
  format := .text
  noColour := false

/-- Why there are no arguments to go on with. -/
inductive CommandLineFault where
  /-- A word is no option. -/
  | unknownArgument
  /-- A value is missing, or not one that the option takes. -/
  | invalidValue
  /-- Two options exclude one another, or one is there twice. -/
  | argumentConflict
  /-- There is a value where none is due. -/
  | tooManyValues
  /-- Help is wanted. -/
  | help
  /-- The version is wanted. -/
  | version
deriving Repr, DecidableEq

namespace CommandLine

/-! ### Reading -/

/-- The state of reading. -/
structure State where
  arguments : Arguments
  /-- The options that have been taken into account. -/
  seen : List Flag
  /-- An option with a value that has not been taken into account, and its value if it has been
  read. -/
  held : Option (Setting × Option String)
deriving Repr, DecidableEq

/-- A step of reading. -/
abbrev Step := State → Except CommandLineFault State

/-- The beginning of a command line. -/
def start : State := ⟨.default, [], none⟩

/-- The patterns in a value, between its commas. -/
def patterns (value : String) : List String :=
  (Text.splitAt [','] value.toList).map String.ofList

/-- Take an option into account that may be there once. -/
def once (flag : Flag) (change : Arguments → Except CommandLineFault Arguments) : Step := fun s =>
  if s.seen.contains flag then .error .argumentConflict
  else (change s.arguments).map fun a => { s with arguments := a, seen := flag :: s.seen }

/-- Take an option with its value into account. -/
def give (setting : Setting) (value : String) : Step :=
  match setting with
  | .root => once (.setting .root) fun a => .ok { a with root := value }
  | .config => once (.setting .config) fun a =>
      if value.isEmpty then .error .invalidValue else .ok { a with config := some value }
  | .format => once (.setting .format) fun a =>
      match OutputFormat.ofName? value with
      | some format => .ok { a with format }
      | none => .error .invalidValue
  | .samples => fun s =>
      .ok { s with arguments :=
              { s.arguments with samples := s.arguments.samples ++ patterns value } }
  | .templates => fun s =>
      .ok { s with arguments :=
              { s.arguments with templates := s.arguments.templates ++ patterns value } }

/-- Take the option into account that is held. -/
def settle : Step := fun s =>
  match s.held with
  | none => .ok s
  | some (_, none) => .error .invalidValue
  | some (setting, some value) => give setting value { s with held := none }

/-- Take an option without a value into account. -/
def turnOn (switch : Switch) : Step := fun s => do
  let s ← settle s
  match switch with
  | .help => throw .help
  | .version => throw .version
  | .verbose => once (.switch .verbose) (fun a => .ok { a with verbose := true }) s
  | .noConfig => once (.switch .noConfig) (fun a => .ok { a with noConfig := true }) s
  | .noColour => once (.switch .noColour) (fun a => .ok { a with noColour := true }) s

/-- Take an option with a value into account, or hold it until its value comes. -/
def set (setting : Setting) (value : Option String) : Step := fun s => do
  let s ← settle s
  match value with
  | some value => give setting value s
  | none => return { s with held := some (setting, none) }

/-- A word with a long option: its name and, behind an equals sign, its value. -/
def readLong (word : List Char) : Step := fun s =>
  let name := word.takeWhile (· != '=')
  let value := match word.drop name.length with
    | _ :: value => some (String.ofList value)
    | [] => none
  match Flag.ofName? (String.ofList name), value with
  | none, _ => .error .unknownArgument
  | some (.setting setting), value => set setting value s
  | some (.switch _), some _ => .error .tooManyValues
  | some (.switch switch), none => turnOn switch s

/-- A word with short options. What follows one with a value is its value, with or without an equals
sign in front. -/
def readShort : List Char → Step
  | [], s => .ok s
  | c :: cs, s =>
    match Flag.ofLetter? c with
    | none => .error .unknownArgument
    | some (.switch switch) =>
      match turnOn switch s with
      | .ok s => readShort cs s
      | .error fault => .error fault
    | some (.setting setting) =>
      match cs with
      | [] => set setting none s
      | '=' :: value => set setting (some (String.ofList value)) s
      | value => set setting (some (String.ofList value)) s

/-- A word that is no option: the value of the option in front of it, if that lacks one. -/
def readValue (word : String) : Step := fun s =>
  match s.held with
  | some (setting, none) => .ok { s with held := some (setting, some word) }
  | _ => .error .unknownArgument

/-- The words of a command line. Behind two dashes there may be no more. -/
def readWords : List String → Step
  | [], s => settle s
  | word :: words, s =>
    match word.toList with
    | ['-', '-'] => if words.isEmpty then settle s else .error .unknownArgument
    | '-' :: '-' :: name =>
      match readLong name s with
      | .ok s => readWords words s
      | .error fault => .error fault
    | '-' :: c :: cs =>
      match readShort (c :: cs) s with
      | .ok s => readWords words s
      | .error fault => .error fault
    | _ =>
      match readValue word s with
      | .ok s => readWords words s
      | .error fault => .error fault

/-- The arguments in the words of a command line. A configuration file cannot be named and left
alone at once. -/
def read (words : List String) : Except CommandLineFault Arguments := do
  let s ← readWords words start
  if s.arguments.noConfig && s.arguments.config.isSome then throw .argumentConflict
  else return s.arguments

end CommandLine

/-! ### Configurations -/

/-- A configuration with the patterns of a command line: those of templates come first, with the
settings of a parser of which nothing is set, and those of samples last. -/
def Arguments.applyTo (a : Arguments) (c : Config) : Config :=
  let first : List SelectorSettings :=
    if a.templates.isEmpty then [] else [{ patterns := a.templates, parser := .default }]
  { c with templates := first ++ c.templates, samples := c.samples ++ a.samples }

end TemplateCheck
