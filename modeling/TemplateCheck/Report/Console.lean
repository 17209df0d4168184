import TemplateCheck.Report.Document

/-!
# The console report

Plain text with one block per template: the template's name, then a line for its own problem
and one for each sample. Unless the report is verbose, what passed is left out.

* `Style` — the two switches of the report, and `Style.label`, the padded label of a line;
* `Report.block` — the block of one template;
* `Report.console` — the whole report.
-/

namespace TemplateCheck.Report

/-- The colours of a terminal. -/
inductive Colour where
  | green
  | red
  | yellow

/-- A text between the control sequences that set and unset a colour. -/
def Colour.paint (colour : Colour) (text : String) : String :=
  let code :=
    match colour with
    | .green => "32"
    | .red => "31"
    | .yellow => "33"
  "\x1b[" ++ code ++ "m" ++ text ++ "\x1b[39m"

/-- How a console report is written. -/
structure Style where
  /-- Is everything listed, or only what failed? -/
  verbose : Bool
  /-- Are labels coloured? -/
  colour : Bool

/-- What a line tells. -/
inductive Label where
  | error
  | fail
  | pass

/-- The label's text, five characters wide. -/
def Label.text : Label → String
  | .error => "ERROR"
  | .fail => "FAIL "
  | .pass => "PASS "

/-- The label as it is written. -/
def Style.label (style : Style) (label : Label) : String :=
  if style.colour then
    match label with
    | .pass => Colour.green.paint label.text
    | _ => Colour.red.paint label.text
  else label.text

/-- The line of a sample, or nothing if it is left out. -/
def sampleLine (style : Style) (r : SampleResult) : Option String :=
  match r.problem with
  | some problem => some
      ("  " ++ style.label .fail ++ "\t" ++ r.name ++ "\t" ++ problem.message ++ "\n")
  | none =>
    if style.verbose then some ("  " ++ style.label .pass ++ "\t" ++ r.name ++ "\n") else none

/-- The line of a template's own problem, if it has one. -/
def problemLine (style : Style) (r : TemplateResult) : Option String :=
  r.problem.map fun problem =>
    "  " ++ style.label .error ++ "\t" ++ problem.message ++ "\n"

/-- The block of a template: its name and its lines, or nothing if there are no lines and the
report is not verbose. -/
def block (style : Style) (r : TemplateResult) : String :=
  let lines := (problemLine style r).toList ++ r.samples.filterMap (sampleLine style)
  if style.verbose || !lines.isEmpty then r.name ++ "\n" ++ String.join lines else ""

/-- The whole report. -/
def console (style : Style) (results : List TemplateResult) : String :=
  String.join (results.map (block style))

end TemplateCheck.Report
