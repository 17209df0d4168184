import TemplateCheck.Proofs.Text.Utf8
import TemplateCheck.Report.Console
import Mathlib.Data.List.Basic

/-!
# The verbose report can be read back

The verbose console report is a list of lines, and each line shows by how it begins what it tells: a
line with one of the labels tells of the template whose name was the last line without one. Where no
name and no message runs over the end of its line, no template's name begins like a label and no
sample's name holds the tab that ends it, all that the report tells can be read off its text again.

* `Report.Told` — what the report tells of a template, and `Report.told` — of a result;
* `Report.Row` — the lines of the report, and `Report.Row.read` — a line read back;
* `Report.toList_console` — the report is the lines of what it tells;
* `Report.readVerbose` — a reader for the report, and `Report.readVerbose_console` — what it reads;
* `Report.verbose_unambiguous` — reports with one text tell the same.
-/

namespace TemplateCheck.Report

/-! ### What a report tells -/

/-- What the report tells of a template: its name, its message if it did not compile, and for each
of its samples the name, and the message if it failed. -/
structure Told where
  name : String
  message : Option String
  samples : List (String × Option String)
deriving DecidableEq, Repr

/-- What the report tells of a result. -/
def told (r : TemplateResult) : Told :=
  ⟨r.name, r.problem.map Problem.message,
    r.samples.map fun s => (s.name, s.problem.map Problem.message)⟩

/-- Does everything stay on its line and in its place? -/
structure Told.Legible (t : Told) : Prop where
  name_line : '\n' ∉ t.name.toList
  name_start : t.name.toList.head? ≠ some ' '
  message_line : ∀ words ∈ t.message, '\n' ∉ words.toList
  sample_line : ∀ s ∈ t.samples, '\n' ∉ s.1.toList
  sample_tab : ∀ s ∈ t.samples, '\t' ∉ s.1.toList
  sample_message_line : ∀ s ∈ t.samples, ∀ words ∈ s.2, '\n' ∉ words.toList

instance (t : Told) : Decidable t.Legible :=
  decidable_of_iff
    ('\n' ∉ t.name.toList ∧ t.name.toList.head? ≠ some ' ' ∧
      (∀ words ∈ t.message, '\n' ∉ words.toList) ∧ (∀ s ∈ t.samples, '\n' ∉ s.1.toList) ∧
      (∀ s ∈ t.samples, '\t' ∉ s.1.toList) ∧ ∀ s ∈ t.samples, ∀ words ∈ s.2, '\n' ∉ words.toList)
    ⟨fun ⟨hname, hstart, hmessage, hsample, htab, hwords⟩ =>
      ⟨hname, hstart, hmessage, hsample, htab, hwords⟩,
    fun h => ⟨h.name_line, h.name_start, h.message_line, h.sample_line, h.sample_tab,
      h.sample_message_line⟩⟩

/-! ### Lines -/

/-- How a line with a label begins. -/
def Label.mark (label : Label) : List Char :=
  "  ".toList ++ label.text.toList ++ "\t".toList

/-- A line of the report. -/
inductive Row where
  | title (name : String)
  | own (words : String)
  | failed (name words : String)
  | passed (name : String)
deriving DecidableEq, Repr

namespace Row

/-- The text of a line. -/
def text : Row → List Char
  | .title name => name.toList
  | .own words => Label.error.mark ++ words.toList
  | .failed name words => Label.fail.mark ++ (name.toList ++ '\t' :: words.toList)
  | .passed name => Label.pass.mark ++ name.toList

/-- The line that a text is. -/
def read (line : List Char) : Row :=
  let words := line.drop 8
  if line.take 8 = Label.error.mark then .own (String.ofList words)
  else if line.take 8 = Label.fail.mark then
    .failed (String.ofList (words.takeWhile (· != '\t')))
      (String.ofList ((words.dropWhile (· != '\t')).drop 1))
  else if line.take 8 = Label.pass.mark then .passed (String.ofList words)
  else .title (String.ofList line)

/-- Does everything in a line stay in its place? -/
def Legible : Row → Prop
  | .title name => '\n' ∉ name.toList ∧ name.toList.head? ≠ some ' '
  | .own words => '\n' ∉ words.toList
  | .failed name words => '\n' ∉ name.toList ∧ '\t' ∉ name.toList ∧ '\n' ∉ words.toList
  | .passed name => '\n' ∉ name.toList

theorem read_mark (label : Label) (words : List Char) :
    (label.mark ++ words).take 8 = label.mark ∧ (label.mark ++ words).drop 8 = words := by
  cases label <;> exact ⟨rfl, rfl⟩

/-- Behind a name without tabs and a tab, the rest of a line is the message. -/
theorem split_tab {name : List Char} (h : '\t' ∉ name) (words : List Char) :
    (name ++ '\t' :: words).takeWhile (· != '\t') = name ∧
      (name ++ '\t' :: words).dropWhile (· != '\t') = '\t' :: words := by
  have hname : ∀ c ∈ name, (c != '\t') = true := by
    intro c hc
    exact bne_iff_ne.mpr fun heq => h (heq ▸ hc)
  constructor
  · rw [List.takeWhile_append_of_pos hname, List.takeWhile_cons_of_neg (by simp), List.append_nil]
  · rw [List.dropWhile_append_of_pos hname, List.dropWhile_cons_of_neg (by simp)]

theorem read_text {row : Row} (h : row.Legible) : read row.text = row := by
  cases row with
  | title name =>
    -- A text that begins with none of the labels' spaces begins with no label.
    have hmark (label : Label) : name.toList.take 8 ≠ label.mark := by
      intro hlabel
      have hhead : (name.toList.take 8).head? = some ' ' := by
        rw [hlabel]
        cases label <;> rfl
      rw [List.head?_take, if_neg (by decide)] at hhead
      exact h.2 hhead
    rw [text, read, if_neg (hmark .error), if_neg (hmark .fail), if_neg (hmark .pass),
      String.ofList_toList]
  | own words =>
    obtain ⟨htake, hdrop⟩ := read_mark .error words.toList
    rw [text, read, if_pos htake, hdrop, String.ofList_toList]
  | failed name words =>
    obtain ⟨htake, hdrop⟩ := read_mark .fail (name.toList ++ '\t' :: words.toList)
    obtain ⟨hname, hwords⟩ := split_tab h.2.1 words.toList
    rw [text, read, htake, if_neg (by decide), if_pos rfl, hdrop, hname, hwords, List.drop_one,
      List.tail_cons, String.ofList_toList, String.ofList_toList]
  | passed name =>
    obtain ⟨htake, hdrop⟩ := read_mark .pass name.toList
    rw [text, read, htake, if_neg (by decide), if_neg (by decide), if_pos rfl, hdrop,
      String.ofList_toList]

theorem lineBreak_notMem_text {row : Row} (h : row.Legible) : '\n' ∉ row.text := by
  have hmark (label : Label) : '\n' ∉ label.mark := by
    cases label <;> decide
  cases row with
  | title name => exact h.1
  | own words => exact List.not_mem_append (hmark .error) h
  | failed name words =>
    refine List.not_mem_append (hmark .fail) (List.not_mem_append h.1 ?_)
    exact List.not_mem_cons_of_ne_of_not_mem (by decide) h.2.2
  | passed name => exact List.not_mem_append (hmark .pass) h

end Row

/-- The text of some lines, each with its line break. -/
def textOf (rows : List Row) : List Char :=
  rows.flatMap fun row => row.text ++ ['\n']

theorem splitOn_textOf {rows : List Row} (h : ∀ row ∈ rows, row.Legible) :
    (textOf rows).splitOn '\n' = rows.map Row.text ++ [[]] := by
  induction rows with
  | nil =>
    rw [textOf, List.flatMap_nil, List.splitOn_nil]
    rfl
  | cons row rows ih =>
    have hrow : '\n' ∉ row.text := Row.lineBreak_notMem_text (h row List.mem_cons_self)
    rw [textOf, List.flatMap_cons, List.append_assoc, List.singleton_append,
      List.splitOn_append_cons_self_of_not_mem hrow, ← textOf,
      ih fun row' hrow' => h row' (List.mem_cons_of_mem row hrow')]
    rfl

/-! ### The lines of a report -/

/-- The line of a sample. -/
def sampleRow : String × Option String → Row
  | (name, some words) => .failed name words
  | (name, none) => .passed name

/-- The lines that tell of a template. -/
def Told.rows (t : Told) : List Row :=
  .title t.name :: (t.message.map Row.own).toList ++ t.samples.map sampleRow

theorem Told.Legible.rows {t : Told} (h : t.Legible) : ∀ row ∈ t.rows, row.Legible := by
  intro row hrow
  rcases List.mem_append.mp hrow with hrow | hrow
  · rcases List.mem_cons.mp hrow with rfl | hrow
    · exact ⟨h.name_line, h.name_start⟩
    · obtain ⟨words, hwords, rfl⟩ := Option.map_eq_some_iff.mp (Option.mem_toList.mp hrow)
      exact h.message_line words hwords
  · obtain ⟨⟨name, message⟩, hs, rfl⟩ := List.mem_map.mp hrow
    cases message with
    | none => exact h.sample_line _ hs
    | some words =>
      exact ⟨h.sample_line _ hs, h.sample_tab _ hs, h.sample_message_line _ hs words rfl⟩

/-- The verbose style without colours. -/
def verbose : Style := ⟨true, false⟩

theorem toList_line (label : Label) (words : String) :
    ("  " ++ verbose.label label ++ "\t" ++ words ++ "\n").toList =
      label.mark ++ words.toList ++ ['\n'] := by
  rw [String.toList_append, String.toList_append, String.toList_append, String.toList_append]
  rfl

theorem flatMap_problemLine (r : TemplateResult) :
    (problemLine verbose r).toList.flatMap String.toList =
      textOf ((told r).message.map Row.own).toList := by
  unfold problemLine told
  cases r.problem with
  | none => rfl
  | some problem =>
    show ([_] : List String).flatMap String.toList = [Row.own problem.message].flatMap _
    rw [List.flatMap_singleton, List.flatMap_singleton, toList_line, Row.text]

theorem flatMap_sampleLine (s : SampleResult) :
    (sampleLine verbose s).toList.flatMap String.toList =
      (sampleRow (s.name, s.problem.map Problem.message)).text ++ ['\n'] := by
  unfold sampleLine
  cases s.problem with
  | none =>
    show ([_] : List String).flatMap String.toList = _
    rw [List.flatMap_singleton, toList_line]
    rfl
  | some problem =>
    have hwords : "  " ++ verbose.label .fail ++ "\t" ++ s.name ++ "\t" ++ problem.message ++ "\n" =
        "  " ++ verbose.label .fail ++ "\t" ++ (s.name ++ "\t" ++ problem.message) ++ "\n" := by
      simp only [String.append_assoc]
    show ([_] : List String).flatMap String.toList = _
    rw [List.flatMap_singleton, hwords, toList_line, String.toList_append, String.toList_append]
    simp only [sampleRow, Option.map_some, Row.text, List.append_assoc]
    rfl

/-- A block is the lines that tell of its template. -/
theorem toList_block (r : TemplateResult) : (block verbose r).toList = textOf (told r).rows := by
  have hsamples : (r.samples.filterMap (sampleLine verbose)).flatMap String.toList =
      textOf ((told r).samples.map sampleRow) := by
    rw [List.filterMap_eq_flatMap_toList, List.flatMap_assoc, textOf, told, List.map_map,
      List.flatMap_map]
    exact List.flatMap_congr fun s _ => flatMap_sampleLine s
  rw [block, if_pos (by rfl), String.toList_append, String.toList_append, String.toList_join,
    List.flatMap_append, flatMap_problemLine, hsamples, Told.rows, textOf, textOf, textOf,
    List.flatMap_append, List.flatMap_cons]
  simp only [List.append_assoc]
  rfl

/-- The report is the lines that tell of its templates. -/
theorem toList_console (results : List TemplateResult) :
    (console verbose results).toList = textOf ((results.map told).flatMap Told.rows) := by
  rw [console, String.toList_join, List.flatMap_map, textOf, List.flatMap_assoc, List.flatMap_map]
  exact List.flatMap_congr fun r _ => toList_block r

/-! ### Reading the report -/

/-- What has been read of a report from its end: what belongs to the template whose name is still to
come, and the templates behind it. -/
structure Pending where
  message : Option String
  samples : List (String × Option String)
  behind : List Told

/-- Nothing has been read. -/
def Pending.start : Pending := ⟨none, [], []⟩

/-- What has been read after one more line. -/
def Pending.take (row : Row) (p : Pending) : Pending :=
  match row with
  | .title name => ⟨none, [], ⟨name, p.message, p.samples⟩ :: p.behind⟩
  | .own words => { p with message := some words }
  | .failed name words => { p with samples := (name, some words) :: p.samples }
  | .passed name => { p with samples := (name, none) :: p.samples }

/-- What the text of a report tells. Behind the last line break there is no line. -/
def readVerbose (text : String) : List Told :=
  (((text.toList.splitOn '\n').dropLast.map Row.read).foldr Pending.take .start).behind

theorem foldr_sampleRow (samples : List (String × Option String)) (behind : List Told) :
    (samples.map sampleRow).foldr Pending.take ⟨none, [], behind⟩ = ⟨none, samples, behind⟩ := by
  induction samples with
  | nil => rfl
  | cons s samples ih =>
    obtain ⟨name, message⟩ := s
    rw [List.map_cons, List.foldr_cons, ih]
    cases message <;> rfl

/-- The lines that tell of a template are read as that, whatever stands behind them. -/
theorem foldr_rows (t : Told) (behind : List Told) :
    t.rows.foldr Pending.take ⟨none, [], behind⟩ = ⟨none, [], t :: behind⟩ := by
  obtain ⟨name, message, samples⟩ := t
  rw [Told.rows, List.foldr_append, foldr_sampleRow]
  cases message <;> rfl

theorem foldr_flatMap_rows (ts : List Told) :
    (ts.flatMap Told.rows).foldr Pending.take .start = ⟨none, [], ts⟩ := by
  induction ts with
  | nil => rfl
  | cons t ts ih => rw [List.flatMap_cons, List.foldr_append, ih, foldr_rows]

/-- What is written on lines of their own is read line by line. -/
theorem map_read_splitOn {rows : List Row} (h : ∀ row ∈ rows, row.Legible) :
    ((textOf rows).splitOn '\n').dropLast.map Row.read = rows := by
  rw [splitOn_textOf h, List.dropLast_concat, List.map_map]
  exact (List.map_congr_left fun row hrow => Row.read_text (h row hrow)).trans (List.map_id rows)

/-- The reader finds in a legible report what the report tells. -/
theorem readVerbose_console {results : List TemplateResult} (h : ∀ r ∈ results, (told r).Legible) :
    readVerbose (console verbose results) = results.map told := by
  have hrows : ∀ row ∈ (results.map told).flatMap Told.rows, row.Legible := by
    intro row hrow
    obtain ⟨t, ht, hrow⟩ := List.mem_flatMap.mp hrow
    obtain ⟨r, hr, rfl⟩ := List.mem_map.mp ht
    exact (h r hr).rows row hrow
  rw [readVerbose, toList_console, map_read_splitOn hrows, foldr_flatMap_rows]

/-- Two legible reports have the same bytes just if they tell the same: the same templates in the
same order, for each of them the same message or none, and the same samples in the same order, for
each of them the same message or none. -/
theorem verbose_unambiguous {results results' : List TemplateResult}
    (h : ∀ r ∈ results, (told r).Legible) (h' : ∀ r ∈ results', (told r).Legible) :
    Text.Utf8.encode (console ⟨true, false⟩ results) =
        Text.Utf8.encode (console ⟨true, false⟩ results') ↔
      results.map told = results'.map told := by
  constructor
  · intro hbytes
    have htext : console verbose results = console verbose results' := by
      have hdecode := Text.Utf8.decode_eq_ok_iff.mpr hbytes
      exact Except.ok.inj ((Text.Utf8.decode_eq_ok_iff.mpr rfl).symm.trans hdecode)
    rw [← readVerbose_console h, ← readVerbose_console h', htext]
  · intro htold
    have htext : console verbose results = console verbose results' := by
      rw [← String.toList_inj, toList_console, toList_console, htold]
    exact congrArg Text.Utf8.encode htext

/-- A template without a name and with a tab in its message, and one with a sample that fails. -/
def tabbed (cause : Reason) : List TemplateResult :=
  [⟨"", some (.templateParse "t" (.other "x\ty")), []⟩,
    ⟨"b\tc", none, [⟨"b.json", none⟩, ⟨"", some (.sampleLoad "b" cause)⟩]⟩]

/-- The same with one sample less and one template more, named like the sample. -/
def regrouped : List TemplateResult :=
  [⟨"", some (.templateParse "t" (.other "x\ty")), []⟩, ⟨"b\tc", none, []⟩,
    ⟨"b.json", none, [⟨"", some (.sampleLoad "b" .noSample)⟩]⟩]

/-- The bytes tell one report from the other, but not a cause from one that is told in the same
words. -/
theorem verbose_unambiguous_tabbed :
    (∀ r ∈ tabbed .noSample, (told r).Legible) ∧
      (∀ r ∈ tabbed (.other "no sample with this name was found"), (told r).Legible) ∧
      (∀ r ∈ regrouped, (told r).Legible) ∧
      Text.Utf8.encode (console ⟨true, false⟩ (tabbed .noSample)) =
        Text.Utf8.encode (console ⟨true, false⟩
          (tabbed (.other "no sample with this name was found"))) ∧
      Text.Utf8.encode (console ⟨true, false⟩ (tabbed .noSample)) ≠
        Text.Utf8.encode (console ⟨true, false⟩ regrouped) := by
  have htabbed : ∀ r ∈ tabbed .noSample, (told r).Legible := by
    decide +kernel
  have hworded : ∀ r ∈ tabbed (.other "no sample with this name was found"), (told r).Legible := by
    decide +kernel
  have hregrouped : ∀ r ∈ regrouped, (told r).Legible := by
    decide +kernel
  refine ⟨htabbed, hworded, hregrouped, (verbose_unambiguous htabbed hworded).mpr rfl,
    fun hbytes => ?_⟩
  have htold := (verbose_unambiguous htabbed hregrouped).mp hbytes
  have hlength := congrArg List.length htold
  exact absurd hlength (by decide)

end TemplateCheck.Report
