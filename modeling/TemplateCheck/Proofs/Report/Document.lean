import TemplateCheck.Proofs.Json.RoundTrip
import TemplateCheck.MediaType
import TemplateCheck.Proofs.Text.Utf8
import TemplateCheck.Report.Document

/-!
# The JSON report reads back

Whatever the names and messages in a report hold, the JSON report is one line of JSON, and whoever
decodes it finds the results as they were: members in ascending order of their keys, texts as they
are, and `null` where there is no problem.

* `Json.under` — all members under a key, however deep;
* `Report.received` — the results as a reader of the JSON report finds them;
* `Report.readsBack_document` — the report is read back as that;
* `Report.isOk_iff_under` — the report says that all is well just if each `error` in it is `null`;
* `Report.json_reads_back` — the bytes of the report.
-/

namespace TemplateCheck

/-! ### Members under a key -/

mutual

/-- The members under a key, at any depth. -/
def Json.under (key : String) : Json → List Json
  | .arr items => Json.underItems key items
  | .obj members => Json.underMembers key members
  | _ => []

/-- The members under a key in any of the items. -/
def Json.underItems (key : String) : List Json → List Json
  | [] => []
  | v :: vs => Json.under key v ++ Json.underItems key vs

/-- The members under a key among the members, or in any of them. -/
def Json.underMembers (key : String) : List (String × Json) → List Json
  | [] => []
  | (k, v) :: ms => (if k = key then [v] else []) ++ Json.under key v ++ Json.underMembers key ms

end

theorem Json.underItems_eq_flatMap (key : String) (vs : List Json) :
    Json.underItems key vs = vs.flatMap (Json.under key) := by
  induction vs with
  | nil => rfl
  | cons v vs ih => rw [Json.underItems, ih, List.flatMap_cons]

namespace Report

/-! ### What a reader finds -/

/-- The result for a sample as a reader of the JSON report finds it. -/
def receivedSample (r : SampleResult) : Json :=
  .obj [("error", problemText r.problem), ("name", .str r.name)]

/-- The result for a template as a reader of the JSON report finds it. -/
def receivedTemplate (r : TemplateResult) : Json :=
  .obj [("error", problemText r.problem), ("name", .str r.name),
    ("samples", .arr (r.samples.map receivedSample))]

/-- The report as a reader of the JSON report finds it. -/
def received (results : List TemplateResult) : Json :=
  .obj [("ok", .bool (isOk results)), ("templates", .arr (results.map receivedTemplate))]

/-! ### Reading the report back -/

open Json (ReadsBack MemberReadsBack readsBack_null readsBack_bool readsBack_str readsBack_arr
  readsBack_obj)

theorem readsBack_problemText (depth : Nat) (problem : Option Problem) :
    ReadsBack depth (problemText problem) (problemText problem) := by
  cases problem with
  | none => exact readsBack_null depth
  | some problem => exact readsBack_str depth problem.message

theorem forall₂_map {depth : Nat} {α : Type} {written read : α → Json}
    (h : ∀ a, ReadsBack depth (written a) (read a)) (as : List α) :
    List.Forall₂ (ReadsBack depth) (as.map written) (as.map read) := by
  induction as with
  | nil => exact .nil
  | cons a as ih => exact .cons (h a) ih

/-- The reader puts a sample's problem in front of its name. -/
theorem collected_sample (name error : Json) :
    Json.collected [] [("name", name), ("error", error)] = [("error", error), ("name", name)] := by
  have hlt : "error" < "name" := by decide
  simp [Json.collected, insertEntry, hlt]

/-- The reader puts a template's problem in front of its name. -/
theorem collected_template (name error samples : Json) :
    Json.collected [] [("name", name), ("error", error), ("samples", samples)] =
      [("error", error), ("name", name), ("samples", samples)] := by
  have hsamples : "name" < "samples" ∧ ¬ "samples" < "name" := by decide
  have herror : "error" < "samples" ∧ ¬ "samples" < "error" := by decide
  have hlt : "error" < "name" := by decide
  simp [Json.collected, insertEntry, hlt, hsamples, herror]

/-- What the whole report says stands in order already. -/
theorem collected_document (ok templates : Json) :
    Json.collected [] [("ok", ok), ("templates", templates)] =
      [("ok", ok), ("templates", templates)] := by
  have hlt : "ok" < "templates" ∧ ¬ "templates" < "ok" := by decide
  simp [Json.collected, insertEntry, hlt]

theorem readsBack_sampleObject (depth : Nat) (r : SampleResult) :
    ReadsBack (depth + 1) (sampleObject r) (receivedSample r) := by
  have hname : MemberReadsBack depth ("name", .str r.name) ("name", .str r.name) :=
    ⟨rfl, readsBack_str depth r.name⟩
  have herror : MemberReadsBack depth ("error", problemText r.problem)
      ("error", problemText r.problem) :=
    ⟨rfl, readsBack_problemText depth r.problem⟩
  have hread := readsBack_obj (.cons hname (.cons herror .nil))
  rwa [collected_sample] at hread

theorem readsBack_templateObject (depth : Nat) (r : TemplateResult) :
    ReadsBack (depth + 3) (templateObject r) (receivedTemplate r) := by
  have hname : MemberReadsBack (depth + 2) ("name", .str r.name) ("name", .str r.name) :=
    ⟨rfl, readsBack_str _ r.name⟩
  have herror : MemberReadsBack (depth + 2) ("error", problemText r.problem)
      ("error", problemText r.problem) :=
    ⟨rfl, readsBack_problemText _ r.problem⟩
  have hsamples : MemberReadsBack (depth + 2) ("samples", .arr (r.samples.map sampleObject))
      ("samples", .arr (r.samples.map receivedSample)) :=
    ⟨rfl, readsBack_arr (forall₂_map (readsBack_sampleObject depth) r.samples)⟩
  have hread := readsBack_obj (.cons hname (.cons herror (.cons hsamples .nil)))
  rwa [collected_template] at hread

/-- The report is read back with its members in ascending order of their keys. Five containers are
inside one another. -/
theorem readsBack_document (depth : Nat) (results : List TemplateResult) :
    ReadsBack (depth + 5) (document results) (received results) := by
  have hok :
      MemberReadsBack (depth + 4) ("ok", .bool (isOk results)) ("ok", .bool (isOk results)) :=
    ⟨rfl, readsBack_bool _ _⟩
  have htemplates : MemberReadsBack (depth + 4) ("templates", .arr (results.map templateObject))
      ("templates", .arr (results.map receivedTemplate)) :=
    ⟨rfl, readsBack_arr (forall₂_map (readsBack_templateObject depth) results)⟩
  have hread := readsBack_obj (.cons hok (.cons htemplates .nil))
  rwa [collected_document] at hread

/-- The text of the report, with or without the line break at its end, holds the results. -/
theorem read_json (results : List TemplateResult) :
    Json.read (document results).write = .ok (received results) ∧
      Json.read (json results) = .ok (received results) :=
  (readsBack_document 122 results).read_write

/-! ### What the report says of itself -/

theorem problemText_eq_null_iff (problem : Option Problem) :
    problemText problem = .null ↔ problem.isNone = true := by
  cases problem <;> simp [problemText]

theorem under_problemText (key : String) (problem : Option Problem) :
    (problemText problem).under key = [] := by
  cases problem <;> rfl

theorem under_receivedSample (r : SampleResult) :
    (receivedSample r).under "error" = [problemText r.problem] := by
  simp [receivedSample, Json.under, Json.underMembers, under_problemText]

theorem under_receivedTemplate (r : TemplateResult) :
    (receivedTemplate r).under "error" =
      problemText r.problem :: r.samples.map (problemText ·.problem) := by
  have hsamples : (r.samples.map receivedSample).flatMap (Json.under "error") =
      r.samples.map (problemText ·.problem) := by
    rw [List.flatMap_map, List.map_eq_flatMap]
    exact List.flatMap_congr fun s _ => under_receivedSample s
  simp [receivedTemplate, Json.under, Json.underMembers, under_problemText,
    Json.underItems_eq_flatMap, hsamples]

theorem under_received (results : List TemplateResult) :
    (received results).under "error" =
      results.flatMap fun r => (receivedTemplate r).under "error" := by
  simp [received, Json.under, Json.underMembers, Json.underItems_eq_flatMap, List.flatMap_map]

/-- The report says that all is well just if each problem in it is `null`. -/
theorem isOk_iff_under (results : List TemplateResult) :
    isOk results = true ↔ ∀ v ∈ (received results).under "error", v = .null := by
  have htemplate (r : TemplateResult) :
      r.isOk = true ↔ ∀ v ∈ (receivedTemplate r).under "error", v = .null := by
    simp [TemplateResult.isOk, SampleResult.isOk, under_receivedTemplate, problemText_eq_null_iff]
  rw [isOk, List.all_eq_true, under_received]
  constructor
  · intro h v hv
    obtain ⟨r, hr, hv⟩ := List.mem_flatMap.mp hv
    exact (htemplate r).mp (h r hr) v hv
  · intro h r hr
    exact (htemplate r).mpr fun v hv => h v (List.mem_flatMap.mpr ⟨r, hr, hv⟩)

/-! ### The bytes of the report -/

theorem validate_json (results : List TemplateResult) :
    MediaType.validate "application/json" (json results) = .ok () := by
  have hformat :
      MediaType.Format.ofEssence? (MediaType.essence "application/json") = some .json := by
    decide +kernel
  have hcheck : MediaType.Format.check .json (json results) = .ok () := by
    rw [MediaType.Format.check, (read_json results).2]
    rfl
  rw [MediaType.validate_of_format_some hformat, hcheck, Except.mapError]

/-- The only line break in the report is the one at its end. -/
theorem lineBreak_notMem_document (results : List TemplateResult) :
    (0x0a : UInt8) ∉ Text.Utf8.encode (document results).write := by
  intro h
  obtain ⟨c, hc, hbreak⟩ := Text.Utf8.exists_mem_of_mem_encode (by decide) h
  have hvisible : 0x20 ≤ c.toNat := (readsBack_document 0 results).visible_write c hc
  rw [hbreak] at hvisible
  exact absurd hvisible (by decide)

/-- The bytes of the JSON report are a line of JSON and the line break behind it, and there is no
other. As a text they are accepted as JSON, and decoded, with the line break or without it, they
give back the results: for each template its name, its message or `null`, and for each of its
samples the name, and the message or `null`, all in order. All is well just if each message is
`null`. -/
theorem json_reads_back (results : List TemplateResult) :
    ∃ line text,
      Text.Utf8.encode (json results) = Text.Utf8.encode line ++ [0x0a] ∧
        (0x0a : UInt8) ∉ Text.Utf8.encode line ∧
        Json.read line = .ok (received results) ∧
        Text.Utf8.decode (Text.Utf8.encode (json results)) = .ok text ∧
        MediaType.validate "application/json" text = .ok () ∧
        Json.read text = .ok (received results) ∧
        (isOk results = true ↔ ∀ v ∈ (received results).under "error", v = .null) := by
  have hbytes : Text.Utf8.encode (json results) =
      Text.Utf8.encode (document results).write ++ [0x0a] := by
    have hbreak : Text.Utf8.encode "\n" = [0x0a] := by
      rw [Text.Utf8.encode_eq_flatMap]
      rfl
    rw [json, Text.Utf8.encode_append, hbreak]
  obtain ⟨hline, htext⟩ := read_json results
  exact ⟨(document results).write, json results, hbytes, lineBreak_notMem_document results, hline,
    Text.Utf8.decode_eq_ok_iff.mpr rfl, validate_json results, htext, isOk_iff_under results⟩

end Report

end TemplateCheck
