import TemplateCheck.Problem
import TemplateCheck.Json.Writer

/-!
# Results of a check, and the JSON report

The report is one JSON document on one line, with the members of each object in a fixed order.

* `SampleResult` — one template rendered with one sample;
* `TemplateResult` — one template with all its samples;
* `failureCount` — how many templates failed, by themselves or with a sample;
* `Report.document` — the report as a value;
* `Report.json` — its text, with a line break at the end.
-/

namespace TemplateCheck

/-- The outcome of rendering one template with one sample: the sample's name, and why loading,
rendering or validating failed, if it did. -/
structure SampleResult where
  name : String
  problem : Option Problem
deriving Repr, DecidableEq

/-- Did everything go well? -/
def SampleResult.isOk (r : SampleResult) : Bool := r.problem.isNone

/-- The outcome for one template: its name, why it did not compile, if it did not, and one
result for each sample rendered through it. -/
structure TemplateResult where
  name : String
  problem : Option Problem
  samples : List SampleResult
deriving Repr, DecidableEq

/-- Did the template compile and every sample render? -/
def TemplateResult.isOk (r : TemplateResult) : Bool :=
  r.problem.isNone && r.samples.all SampleResult.isOk

namespace Report

/-- Did every template compile and every sample render? -/
def isOk (results : List TemplateResult) : Bool :=
  results.all TemplateResult.isOk

/-- The number of templates that did not compile or have a failing sample. -/
def failureCount (results : List TemplateResult) : Nat :=
  (results.filter fun r => !r.isOk).length

/-- What a writer that takes at most `limit` bytes makes of a text. -/
def writeWithin (limit : Option Nat) (text : String) : Except FileFault String :=
  match limit with
  | none => .ok text
  | some limit => if text.utf8ByteSize ≤ limit then .ok text else .error .outputFull

/-! ### The document -/

/-- The message of a problem, or `null`. -/
def problemText : Option Problem → Json
  | some problem => .str problem.message
  | none => .null

/-- A sample's result as a value. -/
def sampleObject (r : SampleResult) : Json :=
  .obj [("name", .str r.name), ("error", problemText r.problem)]

/-- A template's result as a value. -/
def templateObject (r : TemplateResult) : Json :=
  .obj [("name", .str r.name), ("error", problemText r.problem),
    ("samples", .arr (r.samples.map sampleObject))]

/-- The whole report as a value. -/
def document (results : List TemplateResult) : Json :=
  .obj [("ok", .bool (isOk results)), ("templates", .arr (results.map templateObject))]

/-- The text of the report. -/
def json (results : List TemplateResult) : String :=
  (document results).write ++ "\n"

end Report

end TemplateCheck
