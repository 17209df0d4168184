import TemplateCheck.CommandLine
import TemplateCheck.Config.Read
import TemplateCheck.Report.Console
import TemplateCheck.Report.Document
import TemplateCheck.Scan
import TemplateCheck.Text.References

/-!
# The program

What a run of the program does with a command line, in given surroundings.

* `Surroundings` — the files, the working directory and the variables;
* `Outcome` — the exit code, and what is written to the two outputs;
* `Program.run` — a run with given arguments;
* `Program.main` — a run with a given command line.

The first step that fails decides the exit code; what goes to the main output is written at the very
end.
-/

namespace TemplateCheck

/-- What a run of the program finds. -/
structure Surroundings where
  files : FileTree.Node
  /-- The working directory. -/
  directory : String
  environment : String → Option String

/-- What a run of the program leaves. -/
structure Outcome where
  code : Nat
  /-- What is written to the main output. -/
  output : String
  /-- What is written to the output for messages. -/
  messages : String
deriving Repr, DecidableEq

namespace Program

/-! ### Exit codes -/

/-- The command line makes no sense. -/
def badCommandLine : Nat := 1

/-- The configuration makes no sense. -/
def badConfig : Nat := 2

/-- The files cannot be scanned. -/
def scanFailed : Nat := 3

/-- Some template fails, by itself or with a sample. -/
def templatesFailed : Nat := 4

/-! ### Messages -/

/-- A text, coloured if there are colours. -/
def painted (colours : Bool) (colour : Report.Colour) (text : String) : String :=
  if colours then colour.paint text else text

/-- Are there colours? They can be turned off by an option and by a variable. -/
def colours (s : Surroundings) (a : Arguments) : Bool :=
  !a.noColour && (s.environment "NO_COLOR").isNone

/-- The message for a problem: its code, what is wrong, and advice. -/
def diagnostic (p : Problem) : String :=
  p.code ++ "\n\n  " ++ p.message ++ "\n" ++
    (p.help?.map fun help => "  help: " ++ help ++ "\n").getD ""

/-- The message about a selector, if it has no entries. -/
def warning (colours : Bool) (selector : Selector) : String :=
  if selector.isEmpty then
    painted colours .yellow "warning:" ++
      " no template patterns configured; pass `--templates` or add `templates` to a config file\n"
  else ""

/-- The message that all is well. -/
def praise (colours : Bool) (report : ScanReport) : String :=
  painted colours .green "ok:" ++ s!" {report.results.length} template(s) checked\n"

/-- The end of a run in which a step failed. -/
def failure (code : Nat) (messages : String) (p : Problem) : Outcome :=
  { code, output := "", messages := messages ++ diagnostic p }

/-! ### Steps -/

/-- The root directory, with the values of variables in place of their names. -/
def rootOf (s : Surroundings) (a : Arguments) : Option String :=
  Path.absolute? s.directory (Text.References.expand s.environment a.root)

/-- The configuration that a command line asks for, and a message about the file it comes from. -/
def configFor (s : Surroundings) (a : Arguments) (root : String) :
    Except Problem (Config × String) := do
  let told (words path : String) := if a.verbose then words ++ path ++ "\n" else ""
  if a.noConfig then return (.default, "")
  else
    match a.config with
    | some path =>
      let c ← Config.read s.files s.directory path
      return (c, told "using config file " path)
    | none =>
      match ← Config.load s.files s.directory root with
      | some (path, c) => return (c, told "found config file " path)
      | none => return (.default, "")

/-- The text of a report. -/
def reportText (s : Surroundings) (a : Arguments) (report : ScanReport) : String :=
  match a.format with
  | .text => Report.console ⟨a.verbose, colours s a⟩ report.results
  | .json => Report.json report.results

/-- The end of a run in which no step failed. -/
def finish (s : Surroundings) (a : Arguments) (messages : String) (report : ScanReport) : Outcome :=
  let output := reportText s a report
  if Report.isOk report.results then
    let praised := a.verbose && a.format = .text
    { code := 0, output,
      messages := messages ++ if praised then praise (colours s a) report else "" }
  else { code := templatesFailed, output, messages }

/-- A run with given arguments. -/
def run (s : Surroundings) (a : Arguments) : Outcome :=
  match rootOf s a with
  | none =>
    let message := FileFault.emptyPath.message
    { code := badCommandLine, output := "",
      messages := painted (colours s a) .red "error:" ++ s!" invalid root `{a.root}`: {message}\n" }
  | some root =>
    match configFor s a root with
    | .error p => failure badConfig "" p
    | .ok (c, found) =>
      let c := a.applyTo c
      match c.selector with
      | .error p => failure badConfig found p
      | .ok selector =>
        let messages := found ++ warning (colours s a) selector
        match ScanOptions.ofConfig c with
        | .error p => failure badConfig messages p
        | .ok options =>
          match scan s.files root selector options with
          | .error p => failure scanFailed messages p
          | .ok report => finish s a messages report

/-! ### Command lines -/

/-- The name and version of the program. -/
def versionText : String := "thoth_cli 0.1.0\n"

/-- How the program is called. -/
def usage : String :=
  "Usage: thoth [OPTIONS]\n\nOptions:\n" ++
  "  -R, --root <ROOT>            root directory, `.` unless given\n" ++
  "  -v, --verbose                list every template and every sample\n" ++
  "      --no-cfg                 ignore configuration files\n" ++
  "      --cfg <CFG>              read this configuration file\n" ++
  "  -s, --samples <SAMPLES>      patterns for samples, separated by commas\n" ++
  "  -t, --templates <TEMPLATES>  patterns for templates, separated by commas\n" ++
  "      --format <FORMAT>        text or json\n" ++
  "      --no-color               write no colours\n" ++
  "  -h, --help                   print this help\n" ++
  "  -V, --version                print the version\n"

/-- The end of a run that has no arguments to go on with. -/
def refusal : CommandLineFault → Outcome
  | .help => { code := 0, output := usage, messages := "" }
  | .version => { code := 0, output := versionText, messages := "" }
  | _ => { code := badCommandLine, output := "", messages := usage }

/-- A run with the words of a command line. -/
def main (s : Surroundings) (words : List String) : Outcome :=
  match CommandLine.read words with
  | .ok a => run s a
  | .error fault => refusal fault

end Program

end TemplateCheck
