import TemplateCheck.Proofs.Template.Filter
import TemplateCheck.Template.Exec

/-!
# The machine under a laxer policy

A computation of the machine that succeeds under one policy succeeds under a laxer one: with the
same result, and with the machine in the same state. Like uses of values, computations that keep
what comes out of them can be combined.

* `Run.Stable` — what comes out of the machine stays the same under a laxer policy;
* `Calls.Stable` — this holds of all that runs other parts of a template;
* `Run.stable_call`, `Run.stable_callMethod`, `Run.stable_callName` — calls, if it holds of these;
* `Run.stable_filter`, `Run.stable_test` — what filters and tests yield where the machine reveals
  their arguments.
-/

namespace TemplateCheck.Template

namespace Run

variable {α β : Type}

/-- What comes out under a policy, the machine included, comes out under every laxer policy. -/
def Stable (run : Run α) : Prop :=
  ∀ ⦃p q : Policy⦄, p.RelaxedTo q → ∀ m r, run m p = .ok r → run m q = .ok r

/-! ### Combining computations -/

@[grind .]
theorem Stable.pure (a : α) : Stable (pure a) :=
  fun _ _ _ _ _ h => h

@[grind .]
theorem Stable.fail (line : Nat) (kind : FaultKind) : Stable (fail line kind : Run α) :=
  fun _ _ _ _ _ h => h

theorem bind_eq_ok_iff {run : Run α} {f : α → Run β} {m : Machine} {policy : Policy}
    {r : β × Machine} :
    (run >>= f) m policy = .ok r ↔
      ∃ a m', run m policy = .ok (a, m') ∧ f a m' policy = .ok r := by
  refine ⟨fun h => ?_, ?_⟩
  · obtain ⟨⟨a, m'⟩, ha, hr⟩ := bind_ok h
    exact ⟨a, m', ha, hr⟩
  · rintro ⟨a, m', ha, hr⟩
    change (run m policy >>= fun (a, m') => f a m' policy) = .ok r
    rw [ha]
    exact hr

@[grind .]
theorem Stable.bind {run : Run α} {f : α → Run β} (hrun : Stable run) (hf : ∀ a, Stable (f a)) :
    Stable (run >>= f) := by
  intro p q hpq m r h
  obtain ⟨a, m', ha, hr⟩ := bind_eq_ok_iff.mp h
  exact bind_eq_ok_iff.mpr ⟨a, m', hrun hpq m (a, m') ha, hf a hpq m' r hr⟩

@[grind .]
theorem Stable.get : Stable (get : Run Machine) :=
  fun _ _ _ _ _ h => h

@[grind .]
theorem Stable.set (m : Machine) : Stable (set m : Run PUnit) :=
  fun _ _ _ _ _ h => h

@[grind .]
theorem Stable.modify (f : Machine → Machine) : Stable (modify f : Run PUnit) :=
  fun _ _ _ _ _ h => h

/-- A use of values is asked under the policy of the machine. -/
@[grind .]
theorem Stable.use {u : Use α} (hu : u.Stable) (line : Nat) : Stable (use line u) := by
  intro p q hpq m r h
  rw [Run.use] at h ⊢
  split at h
  · rename_i a ha
    rw [hu hpq m.escaping a ha]
    exact h
  · cases h

/-- What comes out does not depend on how failures are called. -/
theorem Stable.failingAs {run : Run α} (hrun : Stable run) (line : Nat) (kind : FaultKind) :
    Stable (failingAs line kind run) := by
  intro p q hpq m r h
  rw [Run.failingAs] at h ⊢
  split at h
  · rename_i found hfound
    rw [hrun hpq m found hfound]
    exact h
  · cases h

theorem Stable.forM {f : α → Run PUnit} (hf : ∀ a, Stable (f a)) (l : List α) :
    Stable (l.forM f) := by
  induction l with
  | nil => exact .pure ()
  | cons a l ih => exact (hf a).bind fun _ => ih

/-! ### Names and frames -/

@[grind .]
theorem stable_top : Stable top := by grind [top]

@[grind .]
theorem stable_store (name : String) (v : Value) : Stable (store name v) := .modify _

@[grind .]
theorem stable_closure : Stable closure := by grind [closure]

@[grind .]
theorem stable_enclose (s : Setting) (id : Nat) (names : List String) :
    Stable (enclose s id names) := .modify _

theorem Stable.inFrame {run : Run α} (hrun : Stable run) (line : Nat) (f : Frame) :
    Stable (inFrame line f run) := by
  refine .bind .get fun m => ?_
  split
  · exact .fail line _
  · refine .bind (.modify _) fun _ => ?_
    refine .bind hrun fun a => ?_
    exact .bind (.modify _) fun _ => .pure a

@[grind .]
theorem stable_currentLoop : Stable currentLoop := by grind [currentLoop]

/-! ### Parts of values and arguments -/

/-- What lives in the machine has parts under every policy; for other values it is asked. -/
theorem stable_part (line : Nat) (v key : Value) : Stable (part line v key) := by
  unfold part
  split
  · exact .bind .get fun m => .pure _
  · exact .use (Use.stable_part _ _) line

theorem stable_captured (text : String) : Stable (captured text) := by grind [captured]

@[grind .]
theorem stable_places (line : Nat) (given : List (ArgKind × Value)) :
    Stable (places line given) := by
  induction given with
  | nil => exact .pure []
  | cons arg rest ih =>
    obtain ⟨kind, v⟩ := arg
    unfold places
    cases kind <;> grind

@[grind .]
theorem stable_keywords (line : Nat) (given : List (ArgKind × Value)) :
    Stable (keywords line given) := by
  induction given with
  | nil => exact .pure []
  | cons arg rest ih =>
    obtain ⟨kind, v⟩ := arg
    unfold keywords
    cases kind <;> grind

theorem stable_arguments (line : Nat) (given : List (ArgKind × Value))
    (more : List (Value × Value)) : Stable (arguments line given more) := by
  refine .bind (stable_places line given) fun before => ?_
  refine .bind (stable_keywords line given) fun named => ?_
  split
  · split
    · exact .pure _
    · exact .pure before
  · exact .pure before

/-! ### Filters, tests and conditions -/

theorem stable_filter (line : Nat) (name : String) (args : List Value) :
    Stable (filter line name args) := by
  unfold filter
  split
  · exact .fail line _
  · rename_i f _
    exact .bind .get fun m => .use (Filter.stable_apply _ f) line

theorem stable_test (line : Nat) (name : String) (made : Bool) (args : List Value) :
    Stable (test line name made args) := by
  unfold test
  split
  · exact .fail line _
  · exact .bind (.use (Test.stable_passes args .sameAs) line) fun passed => .pure _
  · rename_i t _ _
    refine .bind .get fun m => ?_
    exact .bind (.use (Test.stable_passes _ t) line) fun passed => .pure _

theorem stable_condition (line : Nat) (v : Value) : Stable (condition line v) := by
  unfold condition
  split
  · exact .bind .get fun m => .use (Use.stable_condition _) line
  · exact .use (Use.stable_condition _) line

theorem stable_comparisons (line : Nat) (first : Value) (ops : List Comparison)
    (vs : List Value) : Stable (comparisons line first ops vs) := by
  induction ops generalizing first vs with
  | nil => cases vs <;> exact .pure true
  | cons op ops ih =>
    cases vs with
    | nil => exact .pure true
    | cons v vs =>
      rw [comparisons]
      refine .bind (.use (Use.stable_accept first) line) fun _ => ?_
      refine .bind (.use (Use.stable_accept v) line) fun _ => ?_
      refine .bind .get fun m => ?_
      refine .bind (.use (.of _) line) fun holds => ?_
      split
      · exact ih v vs
      · exact .pure false

/-! ### Calls -/

theorem stable_newRecord (line : Nat) (args : List Value) : Stable (newRecord line args) := by
  refine .bind (.use (Function.stable_recordEntries args) line) fun entries => ?_
  refine .bind .get fun m => ?_
  exact .bind (.set _) fun _ => .pure _

theorem stable_callFunction (s : Setting) (line : Nat) (name : String) (args : List Value) :
    Stable (callFunction s line name args) := by
  unfold callFunction
  refine .bind .get fun m => ?_
  split
  · exact .use (.of _) line
  · rename_i f _ hf
    split
    · exact .pure _
    · exact .use (Function.stable_builtin? _ hf) line
  · split
    · exact stable_newRecord line _
    · exact .fail line _

@[grind .]
theorem stable_loopChanged (id : Nat) (args : List Value) : Stable (loopChanged id args) := by
  grind [loopChanged]

@[grind .]
theorem stable_loopCycle (id : Nat) (args : List Value) : Stable (loopCycle id args) := by
  grind [loopCycle]

end Run

/-- All that runs other parts of a template keeps what comes out of it under a laxer policy. -/
structure Calls.Stable (calls : Calls) : Prop where
  routine : ∀ line id args, Run.Stable (calls.routine line id args)
  again : ∀ line body v, Run.Stable (calls.again line body v)
  block : ∀ line name, Run.Stable (calls.block line name)
  whole : ∀ line, Run.Stable (calls.whole line)

namespace Run

variable {s : Setting} {calls : Calls} (hcalls : calls.Stable)
include hcalls

@[grind .]
theorem stable_call (line : Nat) (callee : Value) (args : List Value) :
    Stable (call s calls line callee args) := by
  unfold call
  split
  · exact stable_callFunction s line _ args
  · exact hcalls.routine line _ args
  · exact .fail line _
  · exact .fail line _

theorem stable_callMethod (line : Nat) (v : Value) (name : String) (args : List Value) :
    Stable (callMethod s calls line v name args) := by
  unfold callMethod
  grind

@[grind .]
theorem stable_recurse (line : Nat) (args : List Value) : Stable (recurse calls line args) := by
  unfold recurse
  split
  · rename_i v
    refine .bind stable_currentLoop fun l => ?_
    split
    · rename_i body _
      exact .bind (hcalls.again line body v) stable_captured
    · exact .fail line _
  · exact .fail line _

theorem stable_callName (line : Nat) (name : String) (args : List Value) :
    Stable (callName s calls line name args) := by
  grind [callName]

end Run

end TemplateCheck.Template
