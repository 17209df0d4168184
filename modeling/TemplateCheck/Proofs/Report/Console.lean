import TemplateCheck.Proofs.Report.Document
import TemplateCheck.Report.Console

/-!
# The reports agree on what failed

A block of the console report is written here part by part: whoever writes a line sees to it first
that the template's name is there. So the name stands in front of the lines, once, and it is missing
only where there is nothing to tell. What is left of the verbose blocks without their lines on what
passed are the blocks of the other console report, and it has no further ones.

* `Report.Part`, `Report.Draft` — the parts of a block, and what has been written of them;
* `Report.draft` — a block written part by part, and `Report.block_eq_written` — it is the block;
* `Report.Draft.above` — a draft with its lines, and `Report.draft_eq` — every draft is one;
* `Report.parts_quiet` — a block of the console report that is not verbose;
* `Report.reporters_agree` — both console reports, the JSON report and the number of failures.
-/

namespace TemplateCheck.Report

/-! ### Blocks written part by part -/

/-- A part of a block: the template's name, or a line below it. -/
inductive Part where
  | name
  | line (label : Label) (text : String)

/-- Is a part the template's name? -/
def Part.isName : Part → Bool
  | .name => true
  | .line _ _ => false

/-- Does a part tell what passed? -/
def Part.isPass : Part → Bool
  | .line .pass _ => true
  | _ => false

/-- The text of a part of the block of a template. -/
def Part.text (r : TemplateResult) : Part → String
  | .name => r.name ++ "\n"
  | .line _ text => text

/-- The text of parts of the block of a template, one after the other. -/
def written (r : TemplateResult) (parts : List Part) : String :=
  String.join (parts.map (Part.text r))

/-- What has been written of a block, and whether the template's name is part of it. -/
structure Draft where
  parts : List Part
  headed : Bool

namespace Draft

/-- Nothing has been written. -/
def blank : Draft := ⟨[], false⟩

/-- The template's name is written, unless it is there. -/
def head (d : Draft) : Draft :=
  if d.headed then d else ⟨d.parts ++ [.name], true⟩

/-- A line is written, and the template's name before it unless it is there. -/
def put (d : Draft) (label : Label) (text : String) : Draft :=
  ⟨d.head.parts ++ [.line label text], d.head.headed⟩

end Draft

/-- The text of a line: its label, and what it tells. -/
def Style.line (style : Style) (label : Label) (words : String) : String :=
  "  " ++ style.label label ++ "\t" ++ words ++ "\n"

/-- The line of a template's own problem is written, if it has one. -/
def Draft.own (style : Style) (r : TemplateResult) (d : Draft) : Draft :=
  match r.problem with
  | some problem => d.put .error (style.line .error problem.message)
  | none => d

/-- The line of a sample is written, unless it is left out. -/
def Draft.sample (style : Style) (d : Draft) (r : SampleResult) : Draft :=
  match r.problem with
  | some problem => d.put .fail (style.line .fail (r.name ++ "\t" ++ problem.message))
  | none => if style.verbose then d.put .pass (style.line .pass r.name) else d

/-- The block of a template, written part by part. -/
def draft (style : Style) (r : TemplateResult) : Draft :=
  let start := if style.verbose then Draft.blank.head else Draft.blank
  r.samples.foldl (Draft.sample style) (start.own style r)

/-! ### The lines of a block -/

/-- The line of a template's own problem. -/
def ownLines (style : Style) (r : TemplateResult) : List Part :=
  match r.problem with
  | some problem => [.line .error (style.line .error problem.message)]
  | none => []

/-- The line of a sample. -/
def sampleLines (style : Style) (r : SampleResult) : List Part :=
  match r.problem with
  | some problem => [.line .fail (style.line .fail (r.name ++ "\t" ++ problem.message))]
  | none => if style.verbose then [.line .pass (style.line .pass r.name)] else []

/-- All lines of a block. -/
def blockLines (style : Style) (r : TemplateResult) : List Part :=
  ownLines style r ++ r.samples.flatMap (sampleLines style)

/-- The lines with the template's name above them. Without lines there is a name only if the report
is verbose. -/
def Draft.above (verbose : Bool) (lines : List Part) : Draft :=
  if verbose || !lines.isEmpty then ⟨.name :: lines, true⟩ else ⟨[], false⟩

theorem Draft.put_above (verbose : Bool) (lines : List Part) (label : Label) (text : String) :
    (above verbose lines).put label text = above verbose (lines ++ [.line label text]) := by
  have hnew : (lines ++ [Part.line label text]).isEmpty = false := by simp
  rw [above, above, hnew, Bool.not_false, Bool.or_true, if_pos rfl]
  cases hheaded : verbose || !lines.isEmpty with
  | true => rfl
  | false =>
    obtain ⟨-, hlines⟩ := Bool.or_eq_false_iff.mp hheaded
    obtain rfl : lines = [] := by simpa using hlines
    rfl

theorem Draft.own_above (style : Style) (r : TemplateResult) (verbose : Bool) :
    (above verbose []).own style r = above verbose (ownLines style r) := by
  unfold own ownLines
  cases r.problem with
  | some problem => exact put_above verbose [] .error _
  | none => rfl

theorem Draft.sample_above (style : Style) (verbose : Bool) (lines : List Part) (r : SampleResult) :
    (above verbose lines).sample style r = above verbose (lines ++ sampleLines style r) := by
  unfold sample sampleLines
  cases r.problem with
  | some problem => exact put_above verbose lines .fail _
  | none =>
    cases style.verbose with
    | true => exact put_above verbose lines .pass _
    | false => exact congrArg (above verbose) (List.append_nil lines).symm

/-- Sample after sample, the lines stay below the template's name. -/
theorem Draft.foldl_sample (style : Style) (verbose : Bool) (lines : List Part)
    (rs : List SampleResult) :
    rs.foldl (sample style) (above verbose lines) =
      above verbose (lines ++ rs.flatMap (sampleLines style)) := by
  induction rs generalizing lines with
  | nil => exact congrArg (above verbose) (List.append_nil lines).symm
  | cons r rs ih =>
    rw [List.foldl_cons, sample_above, ih, List.flatMap_cons, List.append_assoc]

/-- A block that is written part by part has the template's name above its lines. -/
theorem draft_eq (style : Style) (r : TemplateResult) :
    draft style r = .above style.verbose (blockLines style r) := by
  have hstart : (if style.verbose then Draft.blank.head else Draft.blank) =
      .above style.verbose [] := by
    cases style.verbose <;> rfl
  rw [draft, hstart, Draft.own_above, Draft.foldl_sample, blockLines]

/-! ### The text of a block -/

theorem written_cons (r : TemplateResult) (part : Part) (parts : List Part) :
    written r (part :: parts) = part.text r ++ written r parts := by
  rw [written, List.map_cons, String.join_cons, written]

theorem map_text_ownLines (style : Style) (r : TemplateResult) :
    (ownLines style r).map (Part.text r) = (problemLine style r).toList := by
  unfold ownLines problemLine
  cases r.problem <;> rfl

theorem map_text_sampleLines (style : Style) (r : TemplateResult) (s : SampleResult) :
    (sampleLines style s).map (Part.text r) = (sampleLine style s).toList := by
  unfold sampleLines sampleLine
  cases s.problem with
  | some problem => simp [Part.text, Style.line, String.append_assoc]
  | none => cases style.verbose <;> rfl

theorem map_text_blockLines (style : Style) (r : TemplateResult) :
    (blockLines style r).map (Part.text r) =
      (problemLine style r).toList ++ r.samples.filterMap (sampleLine style) := by
  rw [blockLines, List.map_append, map_text_ownLines, List.map_flatMap,
    List.filterMap_eq_flatMap_toList]
  exact congrArg _ (List.flatMap_congr fun s _ => map_text_sampleLines style r s)

/-- Written part by part or at once, the block is the same. -/
theorem block_eq_written (style : Style) (r : TemplateResult) :
    block style r = written r (draft style r).parts := by
  have hlines := map_text_blockLines style r
  have hempty : ((problemLine style r).toList ++ r.samples.filterMap (sampleLine style)).isEmpty =
      (blockLines style r).isEmpty := by
    rw [← hlines, List.isEmpty_map]
  rw [block, draft_eq, Draft.above, hempty, ← hlines]
  split
  · rw [written_cons]
    rfl
  · rfl

/-! ### What failed -/

variable (colour : Bool)

/-- Without being verbose, a report has the lines that a verbose one has on what failed. -/
theorem blockLines_quiet (r : TemplateResult) :
    blockLines ⟨false, colour⟩ r = (blockLines ⟨true, colour⟩ r).filter (!·.isPass) := by
  have hown : ownLines ⟨false, colour⟩ r = (ownLines ⟨true, colour⟩ r).filter (!·.isPass) := by
    unfold ownLines
    cases r.problem <;> rfl
  have hsample (s : SampleResult) :
      sampleLines ⟨false, colour⟩ s = (sampleLines ⟨true, colour⟩ s).filter (!·.isPass) := by
    unfold sampleLines
    cases s.problem <;> rfl
  rw [blockLines, blockLines, List.filter_append, hown, List.filter_flatMap]
  exact congrArg _ (List.flatMap_congr fun s _ => hsample s)

/-- Nothing is told of a template just if nothing failed. -/
theorem blockLines_eq_nil_iff (r : TemplateResult) :
    blockLines ⟨false, colour⟩ r = [] ↔ r.isOk = true := by
  have hown : ownLines ⟨false, colour⟩ r = [] ↔ r.problem.isNone = true := by
    unfold ownLines
    cases r.problem <;> simp
  have hsample (s : SampleResult) : sampleLines ⟨false, colour⟩ s = [] ↔ s.isOk = true := by
    unfold sampleLines SampleResult.isOk
    cases s.problem <;> simp
  rw [blockLines, List.append_eq_nil_iff, List.flatMap_eq_nil_iff, hown, TemplateResult.isOk,
    Bool.and_eq_true, List.all_eq_true]
  exact and_congr_right fun _ => forall₂_congr fun s _ => hsample s

/-- The parts of the verbose block of a template without its lines on what passed. -/
def failures (r : TemplateResult) : List Part :=
  (draft ⟨true, colour⟩ r).parts.filter (!·.isPass)

theorem failures_eq (r : TemplateResult) :
    failures colour r = .name :: blockLines ⟨false, colour⟩ r := by
  rw [failures, draft_eq, blockLines_quiet]
  rfl

/-- Without being verbose, a template that failed has that block, and another one has none. -/
theorem parts_quiet (r : TemplateResult) :
    (draft ⟨false, colour⟩ r).parts = if r.isOk then [] else failures colour r := by
  have hnil := blockLines_eq_nil_iff colour r
  rw [draft_eq, Draft.above, failures_eq]
  cases hok : r.isOk with
  | true =>
    rw [hnil.mpr hok]
    rfl
  | false =>
    have hne : blockLines ⟨false, colour⟩ r ≠ [] := fun h => by
      rw [hnil.mp h] at hok
      cases hok
    have hempty : (blockLines ⟨false, colour⟩ r).isEmpty = false :=
      List.isEmpty_eq_false_iff.mpr hne
    rw [hempty]
    rfl

theorem isName_of_mem_blockLines {style : Style} {r : TemplateResult} {part : Part}
    (h : part ∈ blockLines style r) : part.isName = false := by
  rcases List.mem_append.mp h with h | h
  · unfold ownLines at h
    cases hproblem : r.problem with
    | none => simp [hproblem] at h
    | some problem =>
      rw [hproblem] at h
      rw [List.mem_singleton.mp h]
      rfl
  · obtain ⟨s, -, h⟩ := List.mem_flatMap.mp h
    unfold sampleLines at h
    cases hproblem : s.problem with
    | none =>
      rw [hproblem] at h
      cases hverbose : style.verbose with
      | false => simp [hverbose] at h
      | true =>
        simp only [hverbose, if_true] at h
        rw [List.mem_singleton.mp h]
        rfl
    | some problem =>
      rw [hproblem] at h
      rw [List.mem_singleton.mp h]
      rfl

theorem countP_isName_failures (r : TemplateResult) :
    (failures colour r).countP Part.isName = 1 := by
  have hlines : (blockLines ⟨false, colour⟩ r).countP Part.isName = 0 :=
    List.countP_eq_zero.mpr fun part hpart => by simp [isName_of_mem_blockLines hpart]
  rw [failures_eq, List.countP_cons_of_pos rfl, hlines]

theorem written_failures_ne (r : TemplateResult) : written r (failures colour r) ≠ "" := by
  intro h
  rw [failures_eq, written_cons] at h
  have hname : r.name ++ "\n" = "" := (String.append_eq_empty_iff.mp h).1
  exact absurd (String.append_eq_empty_iff.mp hname).2 (by decide)

/-! ### Whole reports -/

theorem console_eq (style : Style) (results : List TemplateResult) :
    console style results =
      String.join (results.map fun r => written r (draft style r).parts) := by
  rw [console]
  exact congrArg _ (List.map_congr_left fun r _ => block_eq_written style r)

/-- Without being verbose, the console report consists of the blocks of the templates that
failed. -/
theorem console_quiet (results : List TemplateResult) :
    console ⟨false, colour⟩ results =
      String.join ((results.filter (!·.isOk)).map fun r => written r (failures colour r)) := by
  rw [console_eq]
  induction results with
  | nil => rfl
  | cons r results ih =>
    rw [List.map_cons, String.join_cons, ih, parts_quiet]
    cases hok : r.isOk with
    | true =>
      rw [List.filter_cons_of_neg (by simp [hok])]
      exact String.empty_append
    | false =>
      rw [List.filter_cons_of_pos (by simp [hok]), List.map_cons, String.join_cons]
      rfl

theorem countP_isName_quiet (results : List TemplateResult) :
    (results.flatMap fun r => (draft ⟨false, colour⟩ r).parts).countP Part.isName =
      failureCount results := by
  rw [failureCount]
  induction results with
  | nil => rfl
  | cons r results ih =>
    rw [List.flatMap_cons, List.countP_append, ih, parts_quiet]
    cases hok : r.isOk with
    | true =>
      rw [List.filter_cons_of_neg (by simp [hok])]
      exact Nat.zero_add _
    | false =>
      rw [List.filter_cons_of_pos (by simp [hok]), List.length_cons, Nat.add_comm]
      exact congrArg _ (countP_isName_failures colour r)

theorem isOk_iff_filter (results : List TemplateResult) :
    isOk results = true ↔ results.filter (!·.isOk) = [] := by
  rw [isOk, List.all_eq_true, List.filter_eq_nil_iff]
  simp

theorem isOk_iff_failureCount (results : List TemplateResult) :
    isOk results = true ↔ failureCount results = 0 := by
  rw [isOk_iff_filter, failureCount, List.length_eq_zero_iff]

theorem console_quiet_eq_empty_iff (results : List TemplateResult) :
    console ⟨false, colour⟩ results = "" ↔ isOk results = true := by
  rw [console_quiet, isOk_iff_filter]
  cases results.filter (!·.isOk) with
  | nil => exact iff_of_true rfl rfl
  | cons r failed =>
    refine iff_of_false (fun h => ?_) (List.cons_ne_nil r failed)
    rw [List.map_cons, String.join_cons] at h
    exact written_failures_ne colour r (String.append_eq_empty_iff.mp h).1

theorem get?_ok_received (results : List TemplateResult) :
    (received results).get? "ok" = some (.bool (isOk results)) := by
  rw [received, Json.get?, List.lookup_cons_self]

/-- Written part by part, with the template's name before the first line, the blocks make up both
console reports. The one that is not verbose consists of the verbose blocks of the templates that
failed, without the lines on what passed; each of them begins with the template's name and has it
nowhere else, and there are as many as failures are counted. That report is empty just if all is
well, just if no failure is counted, and just if a reader of the JSON report finds in it that all is
well. -/
theorem reporters_agree (results : List TemplateResult) :
    (∀ style, console style results =
        String.join (results.map fun r => written r (draft style r).parts)) ∧
      console ⟨false, colour⟩ results =
        String.join ((results.filter (!·.isOk)).map fun r =>
          written r ((draft ⟨true, colour⟩ r).parts.filter (!·.isPass))) ∧
      (∀ r, ∃ lines, (draft ⟨true, colour⟩ r).parts.filter (!·.isPass) = .name :: lines ∧
        .name ∉ lines) ∧
      (results.flatMap fun r => (draft ⟨false, colour⟩ r).parts).countP Part.isName =
        failureCount results ∧
      (console ⟨false, colour⟩ results = "" ↔ isOk results = true) ∧
      (isOk results = true ↔ failureCount results = 0) ∧
      (isOk results = true ↔
        ∃ v, Json.read (json results) = .ok v ∧ v.get? "ok" = some (.bool true)) := by
  have hjson : isOk results = true ↔
      ∃ v, Json.read (json results) = .ok v ∧ v.get? "ok" = some (.bool true) := by
    have hread := (read_json results).2
    have hget := get?_ok_received results
    constructor
    · intro hok
      exact ⟨received results, hread, by rw [hget, hok]⟩
    · rintro ⟨v, hv, hok⟩
      obtain rfl : received results = v := Except.ok.inj (hread.symm.trans hv)
      simpa [hget] using hok
  refine ⟨fun style => console_eq style results, console_quiet colour results, fun r => ?_,
    countP_isName_quiet colour results, console_quiet_eq_empty_iff colour results,
    isOk_iff_failureCount results, hjson⟩
  refine ⟨_, failures_eq colour r, fun h => ?_⟩
  exact absurd (isName_of_mem_blockLines h) (by simp [Part.isName])

end TemplateCheck.Report
