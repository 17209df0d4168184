import TemplateCheck.Proofs.Template.Run

/-!
# Expressions under a laxer policy

The value of an expression stays the same under a laxer policy, and so does what a target is given:
by induction over expressions, their lists of arguments, and targets. What runs other parts of the
template is only assumed to keep what comes out of it.

* `Run.StableCallee` — a callee is found, and called, alike;
* `Expr.stable_eval` — the values of expressions;
* `Target.stable_assign` — giving values to targets.
-/

namespace TemplateCheck.Template

/-! ### Callees -/

namespace Run

variable {α β : Type}

/-- The same callee is found under a laxer policy, and its calls keep what comes out of them. -/
structure StableCallee (run : Run (Nat → List Value → Run Value)) : Prop where
  found : Stable run
  called : ∀ m policy f m', run m policy = .ok (f, m') → ∀ line args, Stable (f line args)

theorem StableCallee.pure {f : Nat → List Value → Run Value}
    (hf : ∀ line args, Stable (f line args)) : StableCallee (pure f) where
  found := .pure f
  called := by
    rintro m policy _ _ ⟨⟩
    exact hf

theorem StableCallee.map {run : Run α} {f : α → Nat → List Value → Run Value} (hrun : Stable run)
    (hf : ∀ a line args, Stable (f a line args)) : StableCallee (do return f (← run)) where
  found := hrun.bind fun a => .pure (f a)
  called := by
    intro m policy g m' h
    obtain ⟨a, _, -, ⟨⟩⟩ := bind_eq_ok_iff.mp h
    exact hf a

/-- What is done with a callee may rely on its calls. -/
theorem StableCallee.bind {run : Run (Nat → List Value → Run Value)}
    {next : (Nat → List Value → Run Value) → Run β} (hrun : StableCallee run)
    (hnext : ∀ f, (∀ line args, Stable (f line args)) → Stable (next f)) :
    Stable (run >>= next) := by
  intro p q hpq m r h
  obtain ⟨f, m', hf, hr⟩ := bind_eq_ok_iff.mp h
  refine bind_eq_ok_iff.mpr ⟨f, m', hrun.found hpq m (f, m') hf, ?_⟩
  exact hnext f (hrun.called m p f m' hf) hpq m' r hr

end Run

open Run (Stable StableCallee)

variable {s : Setting} {calls : Calls}

/-! ### Expressions -/

/-- An operator on two values asks the policy at most about the values that it prints. -/
theorem BinaryOp.stable_use (op : BinaryOp) (a b : Value) : (op.use a b).Stable := by
  grind [BinaryOp.use]

namespace Expr

variable (input : Value)

mutual

/-- An expression has the same value under a laxer policy. -/
theorem stable_eval (hcalls : calls.Stable) : ∀ e : Expr, Stable (eval s calls input e)
  | .const _ v => by
    rw [eval]
    exact .pure v
  | .omitted v => by
    rw [eval]
    exact .pure v
  | .input => by
    rw [eval]
    exact .pure input
  | .var _ name => by
    rw [eval]
    exact .bind .get fun m => .pure _
  | .not line e => by
    rw [eval]
    refine .bind (stable_eval hcalls e) fun v => ?_
    exact .bind (Run.stable_condition line v) fun isTrue => .pure _
  | .negate line e => by
    rw [eval]
    exact .bind (stable_eval hcalls e) fun v => .use (.of v.negate) line
  | .and line a b => by
    rw [eval]
    refine .bind (stable_eval hcalls a) fun v => ?_
    refine .bind (Run.stable_condition line v) fun isTrue => ?_
    split
    · exact stable_eval hcalls b
    · exact .pure v
  | .or line a b => by
    rw [eval]
    refine .bind (stable_eval hcalls a) fun v => ?_
    refine .bind (Run.stable_condition line v) fun isTrue => ?_
    split
    · exact .pure v
    · exact stable_eval hcalls b
  | .binary line op a b => by
    rw [eval]
    refine .bind (stable_eval hcalls a) fun v => ?_
    refine .bind (stable_eval hcalls b) fun w => ?_
    exact .bind .get fun m => .use (op.stable_use _ _) line
  | .compare line first ops others => by
    rw [eval]
    refine .bind (stable_eval hcalls first) fun v => ?_
    refine .bind (stable_evalAll hcalls others) fun vs => ?_
    exact .bind (Run.stable_comparisons line v ops vs) fun hold => .pure _
  | .choose line condition yes no => by
    rw [eval]
    refine .bind (stable_eval hcalls condition) fun v => ?_
    refine .bind (Run.stable_condition line v) fun isTrue => ?_
    split
    · exact stable_eval hcalls yes
    · exact stable_eval hcalls no
  | .filter line name e kinds args => by
    rw [eval]
    refine .bind (stable_eval hcalls e) fun v => ?_
    refine .bind (stable_evalSome hcalls false kinds args) fun given => ?_
    refine .bind (stable_evalSome hcalls true kinds args) fun keyed => ?_
    refine .bind (Run.stable_arguments line _ _) fun more => ?_
    exact Run.stable_filter line name _
  | .test line name e kinds args => by
    rw [eval]
    refine .bind (stable_eval hcalls e) fun v => ?_
    refine .bind (stable_evalSome hcalls false kinds args) fun given => ?_
    refine .bind (stable_evalSome hcalls true kinds args) fun keyed => ?_
    refine .bind (Run.stable_arguments line _ _) fun more => ?_
    exact Run.stable_test line name _ _
  | .attr line e name => by
    rw [eval]
    exact .bind (stable_eval hcalls e) fun v => Run.stable_part line v _
  | .item line e key => by
    rw [eval]
    refine .bind (stable_eval hcalls e) fun v => ?_
    exact .bind (stable_eval hcalls key) fun k => Run.stable_part line v k
  | .slice line e start stop step => by
    rw [eval]
    refine .bind (stable_eval hcalls e) fun v => ?_
    refine .bind (stable_eval hcalls start) fun a => ?_
    refine .bind (stable_eval hcalls stop) fun b => ?_
    refine .bind (stable_eval hcalls step) fun c => ?_
    refine .bind (.use (Use.stable_accept v) line) fun _ => ?_
    exact .use (.of (v.slice a b c)) line
  | .call line callee kinds args => by
    rw [eval]
    refine (stable_evalCallee hcalls callee).bind fun f hf => ?_
    refine .bind (stable_evalSome hcalls false kinds args) fun given => ?_
    refine .bind (stable_evalSome hcalls true kinds args) fun keyed => ?_
    exact .bind (Run.stable_arguments line _ _) (hf line)
  | .list _ items => by
    rw [eval]
    exact .bind (stable_evalAll hcalls items) fun vs => .pure _
  | .map _ entries => by
    rw [eval]
    exact .bind (stable_evalAll hcalls entries) fun vs => .pure _
termination_by e => (sizeOf e, 0)

/-- The same callee is found, and it does the same. -/
theorem stable_evalCallee (hcalls : calls.Stable) (e : Expr) :
    StableCallee (evalCallee s calls input e) := by
  have he := stable_eval hcalls e
  cases e with
  | var _ name =>
    rw [evalCallee]
    exact .pure fun line args => Run.stable_callName hcalls line name args
  | attr _ e name =>
    have he := stable_eval hcalls e
    unfold evalCallee
    split
    · exact .pure fun line _ => (hcalls.block line name).bind Run.stable_captured
    · exact .map he fun v line args => Run.stable_callMethod hcalls line v name args
  | _ =>
    rw [evalCallee]
    · exact .map he fun v line args => Run.stable_call hcalls line v args
    · nofun
    · nofun
termination_by (sizeOf e, 1)

theorem stable_evalAll (hcalls : calls.Stable) : ∀ es : List Expr, Stable (evalAll s calls input es)
  | [] => by
    rw [evalAll]
    exact .pure []
  | e :: es => by
    rw [evalAll]
    refine .bind (stable_eval hcalls e) fun v => ?_
    exact .bind (stable_evalAll hcalls es) fun vs => .pure _
termination_by es => (sizeOf es, 0)

theorem stable_evalSome (hcalls : calls.Stable) (keyed : Bool) :
    ∀ (kinds : List ArgKind) (es : List Expr), Stable (evalSome s calls input keyed kinds es)
  | kind :: kinds, e :: es => by
    have hes := stable_evalSome hcalls keyed kinds es
    rw [evalSome]
    split
    · refine .bind (stable_eval hcalls e) fun v => ?_
      exact .bind hes fun given => .pure _
    · exact hes
  | [], _ => by
    rw [evalSome]
    · exact .pure []
    · nofun
  | _ :: _, [] => by
    rw [evalSome]
    · exact .pure []
    · nofun
termination_by _ es => (sizeOf es, 0)

end

end Expr

/-! ### Targets -/

mutual

/-- A target is given a value under a laxer policy too. -/
theorem Target.stable_assign (hcalls : calls.Stable) :
    ∀ (v : Value) (target : Target), Stable (target.assign s calls v)
  | v, .name key => by
    rw [assign]
    exact Run.stable_store key v
  | v, .attr line e key => by
    rw [assign]
    refine .bind (Expr.stable_eval .none hcalls e) fun v => ?_
    split
    · exact .modify _
    · exact .fail line _
  | v, .all line targets => by
    have htargets (vs : List Value) := Target.stable_assignAll hcalls line vs targets
    rw [assign]
    refine .bind .get fun m => ?_
    split
    · exact htargets _
    · exact htargets _
    · exact .fail line _

/-- Targets that share the items of a value are given them under a laxer policy too. -/
theorem Target.stable_assignAll (hcalls : calls.Stable) (line : Nat) :
    ∀ (vs : List Value) (targets : List Target), Stable (assignAll s calls line vs targets)
  | vs, [] => by
    rw [assignAll]
    split
    · exact .pure ()
    · exact .fail line _
  | [], _ :: _ => by
    rw [assignAll]
    exact .fail line _
  | v :: vs, target :: targets => by
    rw [assignAll]
    refine .bind (Target.stable_assign hcalls v target) fun _ => ?_
    exact Target.stable_assignAll hcalls line vs targets

end

end TemplateCheck.Template
