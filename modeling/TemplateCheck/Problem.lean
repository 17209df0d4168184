import TemplateCheck.FileTree.Basic
import TemplateCheck.Glob.Pattern
import TemplateCheck.Json.Value
import TemplateCheck.Template.Fault
import TemplateCheck.Text.Utf8

/-!
# Problems

Everything that can go wrong while a tree of templates is checked.

* `Reason` — the cause behind a problem;
* `Problem` — what failed, and on what;
* `Problem.message`, `Problem.code`, `Problem.help?` — how a problem is told.
-/

namespace TemplateCheck

/-- The cause behind a problem. -/
inductive Reason where
  | glob (fault : Glob.Fault)
  | template (fault : Template.Fault)
  | decode (fault : DecodeFault)
  /-- A file is not UTF-8. -/
  | notText (fault : Text.Utf8.Fault)
  /-- The delimiters cannot be told from those of statements and comments. -/
  | delimiters
  /-- A sample has a format that is not supported. -/
  | sampleFormat (format : String)
  /-- There is no sample under a name. -/
  | noSample
  /-- A directory tree cannot be walked. -/
  | walk
  /-- A cause told in words of its own. -/
  | other (words : String)
deriving Repr, DecidableEq

/-- The wording of a cause. -/
def Reason.message : Reason → String
  | .glob fault => fault.message
  | .template fault => fault.message
  | .decode fault => fault.message
  | .notText fault => "file is not valid UTF-8: " ++ fault.message
  | .delimiters => "invalid custom delimiters"
  | .sampleFormat format =>
    s!"unsupported sample format `{format}` (supported formats: json, yaml, yml, toml)"
  | .noSample => "no sample with this name was found"
  | .walk => "walk"
  | .other words => words

/-- What failed, and on what. -/
inductive Problem where
  | io (fault : FileFault)
  | invalidPattern (pattern : String) (reason : Reason)
  | invalidMissingKey (value : String)
  | invalidDelimiters (left right : String) (reason : Reason)
  | configParse (path : String) (reason : Reason)
  | templateParse (name : String) (reason : Reason)
  | templateRender (name : String) (reason : Reason)
  | invalidOutput (mediaType : String) (reason : Reason)
  | sampleLoad (path : String) (reason : Reason)
  | unreadable (path : String) (fault : FileFault)
  | walk (path : String) (reason : Reason)
deriving Repr, DecidableEq

namespace Problem

/-- The message of a problem. -/
def message : Problem → String
  | .io fault => fault.message
  | .invalidPattern pattern reason => s!"invalid glob pattern `{pattern}`: {reason.message}"
  | .invalidMissingKey value => s!"`{value}` is not a valid value for missingKey"
  | .invalidDelimiters left right reason =>
    s!"invalid delimiters `{left}` and `{right}`: {reason.message}"
  | .configParse path reason => s!"failed to parse config file `{path}`: {reason.message}"
  | .templateParse name reason => s!"failed to parse template `{name}`: {reason.message}"
  | .templateRender name reason => s!"failed to render template `{name}`: {reason.message}"
  | .invalidOutput mediaType reason =>
    s!"rendered output is not valid {mediaType}: {reason.message}"
  | .sampleLoad path reason => s!"failed to load sample `{path}`: {reason.message}"
  | .unreadable path fault => s!"failed to read `{path}`: {fault.message}"
  | .walk path reason => s!"failed to walk `{path}`: {reason.message}"

/-- The diagnostic code of a problem. -/
def code : Problem → String
  | .io _ => "thoth::io_error"
  | .invalidPattern .. => "thoth::invalid_pattern"
  | .invalidMissingKey _ => "thoth::invalid_missing_key"
  | .invalidDelimiters .. => "thoth::invalid_delimiters"
  | .configParse .. => "thoth::config_parse"
  | .templateParse .. => "thoth::template_parse"
  | .templateRender .. => "thoth::template_render"
  | .invalidOutput .. => "thoth::invalid_output"
  | .sampleLoad .. => "thoth::sample_load"
  | .unreadable .. => "thoth::read_file"
  | .walk .. => "thoth::walk"

/-- Advice on a problem. -/
def help? : Problem → Option String
  | .invalidPattern .. => some
      "patterns use glob syntax: `*` stays within one path segment, `**` crosses segments"
  | .invalidMissingKey _ => some "valid values: invalid, default, zero, error"
  | .invalidDelimiters .. => some
      "delimiters must be non-empty and must not clash with `\x7b%` or `\x7b#`"
  | .configParse .. => some
      "check that the file is valid YAML or TOML with `templates` and/or `samples` keys"
  | .invalidOutput mediaType _ => some
      s!"set `mediaType` on the parser if this template does not produce {mediaType}"
  | _ => none

end Problem

end TemplateCheck
