import TemplateCheck.Proofs.Template.Use
import TemplateCheck.Template.Filter.Basic
import TemplateCheck.Template.Function

/-!
# Functions, tests and filters under a laxer policy

No function, test or filter looks at the policy itself: each takes its arguments, goes through items
and reads keywords, and these ask the policy on its behalf. So all keep what comes out of them under
a laxer policy. Most of the proofs follow the computation; those of `Filters.chosen`,
`Filters.parts` and `Filter.run` go through a list of items, with a test or a filter for each of
them.

* `Function.stable_builtin?` — the functions that every template knows;
* `Test.stable_passes` — the tests;
* `Filter.stable_apply` — the filters, also those that run a filter named by an argument.
-/

namespace TemplateCheck.Template

open Use (Stable)

variable (args : List Value)

/-! ### Functions -/

namespace Function

theorem stable_range : Stable (range args) := by
  unfold range
  refine .bind (Taking.stable_all ?_ args) fun (a, b, step) => ?_
  · grind
  · grind

theorem stable_dict : Stable (dict args) := by grind [dict]

theorem stable_debug : Stable (debug args) := by
  unfold debug
  split
  · exact .pure _
  · exact .pure _

/-- A new record gets the same entries. -/
@[grind .]
theorem stable_recordEntries : Stable (recordEntries args) := by grind [recordEntries]

/-- Every template knows the same functions, and they yield the same. -/
theorem stable_builtin? {name : String} {f : List Value → Use Value} (hf : builtin? name = some f) :
    Stable (f args) := by
  unfold builtin? at hf
  split at hf
  · obtain rfl := Option.some.inj hf
    exact stable_range args
  · obtain rfl := Option.some.inj hf
    exact stable_dict args
  · obtain rfl := Option.some.inj hf
    exact stable_debug args
  · cases hf

end Function

/-! ### Tests -/

namespace Test

@[grind .]
theorem stable_ofKind (p : Value → Bool) : Stable (ofKind p args) := by grind [ofKind]

@[grind .]
theorem stable_ofPair (p : Value → Value → Bool) : Stable (ofPair p args) := by grind [ofPair]

@[grind .]
theorem stable_ofTexts (p : List Char → List Char → Bool) : Stable (ofTexts p args) := by
  grind [ofTexts]

@[grind .]
theorem stable_ofText (p : String → Bool) : Stable (ofText p args) := by grind [ofText]

/-- What passes a test passes it under a laxer policy, and what fails it fails it. -/
@[grind .]
theorem stable_passes (t : Test) : Stable (t.passes args) := by
  cases t <;> grind [passes]

end Test

namespace Filters

/-! ### Text filters -/

@[grind .]
theorem stable_changing (keeping : Bool) (f : String → String) :
    Stable (changing keeping f args) := by grind [changing]

/-- Only whether texts are escaped is asked here. -/
@[grind .]
theorem stable_mixes (vs : List Value) : Stable (mixes vs) :=
  fun _ _ _ _ _ h => h

@[grind .]
theorem stable_safe : Stable (safe args) := by grind [safe]

@[grind .]
theorem stable_escape : Stable (escape args) := by grind [escape]

@[grind .]
theorem stable_trim : Stable (trim args) := by grind [trim]

@[grind .]
theorem stable_replace : Stable (replace args) := by
  unfold replace
  refine .bind (Taking.stable_all ?_ args) fun (v, old, new) => ?_
  · grind
  · grind

@[grind .]
theorem stable_split : Stable (split args) := by grind [split]

@[grind .]
theorem stable_lines : Stable (lines args) := by grind [lines]

@[grind .]
theorem stable_indent : Stable (indent args) := by
  unfold indent
  refine .bind (Taking.stable_all ?_ args) fun (keywords, v, width, first, blank) => ?_
  · grind
  · grind

@[grind .]
theorem stable_string : Stable (string args) := by grind [string]

@[grind .]
theorem stable_pretty : Stable (pretty args) := by grind [pretty]

@[grind .]
theorem stable_format : Stable (format args) := by grind [format]

@[grind .]
theorem stable_join : Stable (join args) := by grind [join]

/-! ### Number filters -/

@[grind .]
theorem stable_round : Stable (round args) := by grind [round]

@[grind .]
theorem stable_abs : Stable (abs args) := by grind [abs]

@[grind .]
theorem stable_int : Stable (int args) := by grind [int]

@[grind .]
theorem stable_float : Stable (float args) := by grind [float]

@[grind .]
theorem stable_bool : Stable (bool args) := by grind [bool]

@[grind .]
theorem stable_length : Stable (length args) := by grind [length]

@[grind .]
theorem stable_sum : Stable (sum args) := by grind [sum]

/-! ### Sequence filters -/

@[grind .]
theorem stable_default : Stable (default args) := by grind [default]

@[grind .]
theorem stable_attr : Stable (attr args) := by grind [attr]

@[grind .]
theorem stable_first : Stable (first args) := by grind [first]

@[grind .]
theorem stable_last : Stable (last args) := by grind [last]

@[grind .]
theorem stable_least : Stable (least args) := by grind [least]

@[grind .]
theorem stable_greatest : Stable (greatest args) := by grind [greatest]

@[grind .]
theorem stable_list : Stable (list args) := by grind [list]

@[grind .]
theorem stable_reverse : Stable (reverse args) := by grind [reverse]

@[grind .]
theorem stable_items : Stable (items args) := by grind [items]

@[grind .]
theorem stable_chain : Stable (chain args) := by grind [chain]

@[grind .]
theorem stable_zip : Stable (zip args) := by grind [zip]

@[grind .]
theorem stable_sort : Stable (sort args) := by grind [sort]

@[grind .]
theorem stable_dictSort : Stable (dictSort args) := by
  unfold dictSort
  refine .bind (Taking.stable_all ?_ args) fun (keywords, v) => ?_
  · grind
  · grind

@[grind .]
theorem stable_unique : Stable (unique args) := by grind [unique]

@[grind .]
theorem stable_groupBy : Stable (groupBy args) := by
  unfold groupBy
  refine .bind (Taking.stable_all ?_ args) fun (keywords, v, path) => ?_
  · grind
  · refine .bind (keywords.stable_get? _ _) fun default => ?_
    refine .bind (keywords.stable_flag _) fun caseful => ?_
    split
    · grind
    · split
      · grind
      · grind

@[grind .]
theorem stable_batch : Stable (batch args) := by grind [batch]

@[grind .]
theorem stable_slice : Stable (slice args) := by grind [slice]

/-! ### Filters that go by another test or filter -/

/-- The same items are chosen, for the test says the same about each of them. -/
@[grind .]
theorem stable_chosen (inverted : Bool) (v : Value) (path name : Option String)
    (more : List Value) : Stable (chosen inverted v path name more) := by
  unfold chosen
  -- An unknown test is a fault before any item is looked at; `choose` goes on with a known one.
  extract_lets verdict choose
  have hchoose (test? : Option Test) : Stable (choose test?) := by
    refine .bind (Use.stable_itemsOf v) fun items => ?_
    refine .bind (.filterM fun item => ?_) fun kept => .pure _
    grind
  clear_value choose
  grind

@[grind .]
theorem stable_select (inverted : Bool) : Stable (select inverted args) := by grind [select]

@[grind .]
theorem stable_selectAttr (inverted : Bool) : Stable (selectAttr inverted args) := by
  unfold selectAttr
  refine .bind (Taking.stable_all ?_ args) fun (v, path, name, more) => ?_
  · grind
  · grind

@[grind .]
theorem stable_parts (v key : Value) (keywords : Keywords) : Stable (parts v key keywords) := by
  grind [parts]

end Filters

namespace Filter

/-- A filter keeps what comes out of it if the filter that it runs on items does. -/
theorem stable_run {nested : Filter → List Value → Use Value}
    (hnested : ∀ filter args, Stable (nested filter args)) (filter : Filter) :
    Stable (run nested filter args) := by
  cases filter
  case map =>
    rw [run]
    refine .bind (Taking.stable_all ?_ args) fun (v, more) => ?_
    · grind
    · refine .bind (Keywords.stable_get? _ _ _) fun key => ?_
      split
      · grind
      · split
        · exact .fail _
        · rename_i name more _
          split
          · exact .fail _
          · split
            · exact .fail _
            · rename_i filter _
              refine .bind (Use.stable_itemsOf v) fun items => ?_
              refine .bind (.mapM fun item => hnested filter (item :: more)) fun found => ?_
              exact .pure _
  all_goals grind [run]

/-- However deep filters are named by arguments of filters. -/
theorem stable_applyWithin (depth : Nat) (filter : Filter) :
    Stable (applyWithin depth filter args) := by
  induction depth generalizing filter args with
  | zero => exact .fail _
  | succ depth ih => exact stable_run args (fun filter args => ih args filter) filter

/-- What a filter makes of its arguments it makes of them under a laxer policy. -/
@[grind .]
theorem stable_apply (filter : Filter) : Stable (filter.apply args) :=
  stable_applyWithin args _ filter

end Filter

end TemplateCheck.Template
