import TemplateCheck.Proofs.KeyMap
import TemplateCheck.Proofs.Template.Alone

/-!
# Rendering under another name

A template looks at its own name only where it uses another template, to find out whether that is
itself. So one that stands alone is rendered alike under every name. This is shown by comparing two
computations of the machine step by step: expressions, targets and statements by induction, and the
parts of the template that run each other level by level.

* `Run.Related`, `Run.Alike` — computations that do the same on machines that stand alone;
* `Calls.Alike` — this holds of all that runs other parts of a template;
* `Expr.alike_eval`, `Target.alike_assign`, `Stmt.alike_exec` — under another name;
* `Setting.render_renamed` — the text of a whole template under another name.
-/

namespace TemplateCheck.Template

/-- The surroundings of a rendering under another name. -/
def Setting.renamed (s : Setting) (name : String) : Setting := { s with name }

theorem Setting.program_renamed (s : Setting) (name : String) :
    (s.renamed name).program = s.program := rfl

/-- What a name stands for does not depend on the name of the template. -/
theorem Machine.lookup_renamed (m : Machine) (s : Setting) (name callee : String) :
    m.lookup (s.renamed name) callee = m.lookup s callee := rfl

/-- The machine starts alike under every name. -/
theorem Machine.start_renamed (s : Setting) (name : String) :
    Machine.start (s.renamed name) = Machine.start s := rfl

/-! ### Computations side by side -/

namespace Run

variable {α β α' β' : Type}

/-- Two computations end alike: with the same fault, or with related results and the same machine,
which stands alone. -/
inductive Agree (R : α → α' → Prop) :
    Except (FaultKind × Nat) (α × Machine) → Except (FaultKind × Nat) (α' × Machine) → Prop
  | failed (fault : FaultKind × Nat) : Agree R (.error fault) (.error fault)
  | done {a : α} {a' : α'} {m : Machine} (h : R a a') (hm : m.StandsAlone) :
    Agree R (.ok (a, m)) (.ok (a', m))

/-- On machines that stand alone two computations end alike. -/
def Related (R : α → α' → Prop) (run : Run α) (run' : Run α') : Prop :=
  ∀ ⦃m : Machine⦄, m.StandsAlone → ∀ policy, Agree R (run m policy) (run' m policy)

/-- On machines that stand alone two computations do the same. -/
def Alike (run run' : Run α) : Prop := Related (· = ·) run run'

theorem Related.bind {R : α → α' → Prop} {S : β → β' → Prop} {run : Run α} {run' : Run α'}
    {f : α → Run β} {f' : α' → Run β'} (hrun : Related R run run')
    (hf : ∀ a a', R a a' → Related S (f a) (f' a')) : Related S (run >>= f) (run' >>= f') := by
  intro m hm policy
  change Agree S (run m policy >>= fun (a, m') => f a m' policy)
    (run' m policy >>= fun (a, m') => f' a m' policy)
  generalize run m policy = r, run' m policy = r', hrun hm policy = h
  cases h with
  | failed fault => exact .failed fault
  | done h hm' => exact hf _ _ h hm' policy

theorem Keeps.alike {run : Run α} (h : Keeps run) : Alike run run := by
  intro m hm policy
  cases hrun : run m policy with
  | error fault => exact .failed fault
  | ok r => exact .done rfl (h hm policy r.1 r.2 hrun)

theorem Related.pure {R : α → α' → Prop} {a : α} {a' : α'} (h : R a a') :
    Related R (pure a) (pure a') :=
  fun _ hm _ => .done h hm

theorem Alike.pure (a : α) : Alike (pure a) (pure a) :=
  (Keeps.pure a).alike

theorem Alike.fail (line : Nat) (kind : FaultKind) :
    Alike (fail line kind : Run α) (Run.fail line kind) :=
  (Keeps.fail line kind).alike

theorem Alike.modify {f : Machine → Machine} (hf : ∀ m, m.StandsAlone → (f m).StandsAlone) :
    Alike (modify f : Run PUnit) (modify f) :=
  (Keeps.modify hf).alike

theorem Alike.bind {run run' : Run α} {f f' : α → Run β} (hrun : Alike run run')
    (hf : ∀ a, Alike (f a) (f' a)) : Alike (run >>= f) (run' >>= f') :=
  Related.bind hrun fun a _ h => h ▸ hf a

/-- What is done with the machine may rely on its standing alone. -/
theorem Alike.get_bind {f f' : Machine → Run β} (hf : ∀ m, m.StandsAlone → Alike (f m) (f' m)) :
    Alike (get >>= f) (get >>= f') :=
  fun m hm => hf m hm hm

theorem Alike.forM {f f' : α → Run PUnit} (hf : ∀ a, Alike (f a) (f' a)) (l : List α) :
    Alike (l.forM f) (l.forM f') := by
  induction l with
  | nil => exact .pure ()
  | cons a l ih => exact .bind (hf a) fun _ => ih

theorem Alike.inFrame {run run' : Run α} (h : Alike run run') (line : Nat) (f : Frame) :
    Alike (inFrame line f run) (inFrame line f run') := by
  refine .get_bind fun m _ => ?_
  split
  · exact .fail line _
  · refine .bind (.modify fun m hm => hm.of_frames _) fun _ => ?_
    exact .bind h fun a => .bind (.modify fun m hm => hm.of_frames _) fun _ => .pure a

theorem Alike.withEscaping {run run' : Run α} (h : Alike run run') (escaping : Bool) :
    Alike (withEscaping escaping run) (withEscaping escaping run') := by
  refine .get_bind fun m _ => ?_
  refine .bind (.modify fun m hm => hm.of_escaping _) fun _ => ?_
  exact .bind h fun a => .bind (.modify fun m hm => hm.of_escaping _) fun _ => .pure a

theorem Alike.eachItem {step step' : Nat → Value → Run String}
    (h : ∀ index v, Alike (step index v) (step' index v)) (index : Nat) (vs : List Value) :
    Alike (eachItem step index vs) (eachItem step' index vs) := by
  induction vs generalizing index with
  | nil => exact .pure ""
  | cons v vs ih => exact .bind (h index v) fun text => .bind (ih (index + 1)) fun _ => .pure _

theorem Alike.whichItems {step step' : Value → Run Bool} (h : ∀ v, Alike (step v) (step' v))
    (vs : List Value) : Alike (whichItems step vs) (whichItems step' vs) := by
  induction vs with
  | nil => exact .pure []
  | cons v vs ih =>
    refine .bind (h v) fun holds => ?_
    split
    · exact .bind ih fun kept => .pure (v :: kept)
    · exact ih

/-- A loop is pushed before its first round, so what it does again must stand alone. -/
theorem Alike.loop {step step' : Value → Run String} (h : ∀ v, Alike (step v) (step' v))
    (line : Nat) (items : List Value) (sized : Bool) {again : Option LoopBody}
    (hagain : ∀ l, again = some l → Stmt.standAlone l.body) :
    Alike (loop line items sized again step) (loop line items sized again step') := by
  refine .bind keeps_loopDepth.alike fun depth => .get_bind fun m _ => ?_
  refine .bind (.modify fun m hm => hm.push_loop hagain) fun _ => ?_
  refine .inFrame (.eachItem (fun index v => ?_) 0 items) line _
  exact .bind (.modify fun m hm => hm.modify_loop _ fun _ => rfl) fun _ => h v

/-- What the loop that runs innermost does again stands alone. -/
theorem related_currentLoop :
    Related (fun l l' => l = l' ∧
        ∀ again, l.bind (·.again) = some again → Stmt.standAlone again.body)
      currentLoop currentLoop := by
  refine fun m hm policy => .done ⟨rfl, fun again hagain => ?_⟩ hm
  obtain ⟨l, hl, hagain⟩ := Option.bind_eq_some_iff.mp hagain
  obtain ⟨id, -, hl⟩ := Option.bind_eq_some_iff.mp hl
  exact hm.loops id l again hl hagain

end Run

/-! ### Calls -/

/-- All that runs other parts of a template does the same, as long as these stand alone. -/
structure Calls.Alike (calls calls' : Calls) : Prop where
  routine : ∀ line id args, Run.Alike (calls.routine line id args) (calls'.routine line id args)
  again : ∀ line (body : LoopBody) v, Stmt.standAlone body.body →
    Run.Alike (calls.again line body v) (calls'.again line body v)
  block : ∀ line name, Run.Alike (calls.block line name) (calls'.block line name)

open Run (Alike Related Keeps)

variable {s : Setting} {calls calls' : Calls} (name : String)

namespace Run

variable (hcalls : calls.Alike calls')
include hcalls

theorem alike_call (line : Nat) (callee : Value) (args : List Value) :
    Alike (call s calls line callee args) (call (s.renamed name) calls' line callee args) := by
  unfold call
  split
  · exact (keeps_callFunction s line _ args).alike
  · exact hcalls.routine line _ args
  · exact .fail line _
  · exact .fail line _

theorem alike_callMethod (line : Nat) (v : Value) (method : String) (args : List Value) :
    Alike (callMethod s calls line v method args)
      (callMethod (s.renamed name) calls' line v method args) := by
  unfold callMethod
  split
  · exact (keeps_loopChanged _ args).alike
  · exact (keeps_loopCycle _ args).alike
  · exact .fail line _
  · refine .get_bind fun m _ => ?_
    split
    · exact alike_call name hcalls line _ args
    · exact .fail line _
  · split
    · exact alike_call name hcalls line _ args
    · exact .fail line _
  · split
    · exact alike_call name hcalls line _ args
    · exact .fail line _
  · exact .fail line _

theorem alike_recurse (line : Nat) (args : List Value) :
    Alike (recurse calls line args) (recurse calls' line args) := by
  unfold recurse
  split
  · rename_i v
    refine Related.bind related_currentLoop ?_
    rintro l _ ⟨rfl, hagain⟩
    change Alike _ _
    split
    · rename_i body hbody
      exact .bind (hcalls.again line body v (hagain body hbody)) fun text =>
        (keeps_captured text).alike
    · exact .fail line _
  · exact .fail line _

theorem alike_callName (line : Nat) (callee : String) (args : List Value) :
    Alike (callName s calls line callee args)
      (callName (s.renamed name) calls' line callee args) := by
  unfold callName
  split
  · exact .fail line _
  · refine .bind keeps_currentLoop.alike fun l => ?_
    split
    · exact alike_recurse hcalls line args
    · refine .get_bind fun m _ => ?_
      rw [Machine.lookup_renamed]
      split
      · exact alike_call name hcalls line _ args
      · exact .fail line _

end Run

/-! ### Expressions -/

namespace Expr

variable (input : Value)

mutual

/-- An expression has the same value under another name. -/
theorem alike_eval (hcalls : calls.Alike calls') : ∀ e : Expr,
    Alike (eval s calls input e) (eval (s.renamed name) calls' input e)
  | .const _ v => by
    rw [eval, eval]
    exact .pure v
  | .omitted v => by
    rw [eval, eval]
    exact .pure v
  | .input => by
    rw [eval, eval]
    exact .pure input
  | .var _ name => by
    rw [eval, eval]
    exact .get_bind fun m _ => .pure _
  | .not line e => by
    rw [eval, eval]
    refine .bind (alike_eval hcalls e) fun v => ?_
    exact .bind (Run.keeps_condition line v).alike fun isTrue => .pure _
  | .negate line e => by
    rw [eval, eval]
    exact .bind (alike_eval hcalls e) fun v => (Keeps.use line _).alike
  | .and line a b => by
    rw [eval, eval]
    refine .bind (alike_eval hcalls a) fun v => ?_
    refine .bind (Run.keeps_condition line v).alike fun isTrue => ?_
    split
    · exact alike_eval hcalls b
    · exact .pure v
  | .or line a b => by
    rw [eval, eval]
    refine .bind (alike_eval hcalls a) fun v => ?_
    refine .bind (Run.keeps_condition line v).alike fun isTrue => ?_
    split
    · exact .pure v
    · exact alike_eval hcalls b
  | .binary line op a b => by
    rw [eval, eval]
    refine .bind (alike_eval hcalls a) fun v => ?_
    refine .bind (alike_eval hcalls b) fun w => ?_
    exact .get_bind fun m _ => (Keeps.use line _).alike
  | .compare line first ops others => by
    rw [eval, eval]
    refine .bind (alike_eval hcalls first) fun v => ?_
    refine .bind (alike_evalAll hcalls others) fun vs => ?_
    exact .bind (Run.keeps_comparisons line v ops vs).alike fun hold => .pure _
  | .choose line condition yes no => by
    rw [eval, eval]
    refine .bind (alike_eval hcalls condition) fun v => ?_
    refine .bind (Run.keeps_condition line v).alike fun isTrue => ?_
    split
    · exact alike_eval hcalls yes
    · exact alike_eval hcalls no
  | .filter line name e kinds args => by
    rw [eval, eval]
    refine .bind (alike_eval hcalls e) fun v => ?_
    refine .bind (alike_evalSome hcalls false kinds args) fun given => ?_
    refine .bind (alike_evalSome hcalls true kinds args) fun keyed => ?_
    refine .bind (Run.keeps_arguments line _ _).alike fun more => ?_
    exact (Run.keeps_filter line name _).alike
  | .test line name e kinds args => by
    rw [eval, eval]
    refine .bind (alike_eval hcalls e) fun v => ?_
    refine .bind (alike_evalSome hcalls false kinds args) fun given => ?_
    refine .bind (alike_evalSome hcalls true kinds args) fun keyed => ?_
    refine .bind (Run.keeps_arguments line _ _).alike fun more => ?_
    exact (Run.keeps_test line name _ _).alike
  | .attr line e name => by
    rw [eval, eval]
    exact .bind (alike_eval hcalls e) fun v => (Run.keeps_part line v _).alike
  | .item line e key => by
    rw [eval, eval]
    refine .bind (alike_eval hcalls e) fun v => ?_
    exact .bind (alike_eval hcalls key) fun k => (Run.keeps_part line v k).alike
  | .slice line e start stop step => by
    rw [eval, eval]
    refine .bind (alike_eval hcalls e) fun v => ?_
    refine .bind (alike_eval hcalls start) fun a => ?_
    refine .bind (alike_eval hcalls stop) fun b => ?_
    refine .bind (alike_eval hcalls step) fun c => ?_
    refine .bind (Keeps.use line _).alike fun _ => ?_
    exact (Keeps.use line _).alike
  | .call line callee kinds args => by
    rw [eval, eval]
    refine Related.bind (related_evalCallee hcalls callee) fun f f' hf => ?_
    change Alike _ _
    refine .bind (alike_evalSome hcalls false kinds args) fun given => ?_
    refine .bind (alike_evalSome hcalls true kinds args) fun keyed => ?_
    exact .bind (Run.keeps_arguments line _ _).alike (hf line)
  | .list _ items => by
    rw [eval, eval]
    exact .bind (alike_evalAll hcalls items) fun vs => .pure _
  | .map _ entries => by
    rw [eval, eval]
    exact .bind (alike_evalAll hcalls entries) fun vs => .pure _
termination_by e => (sizeOf e, 0)

/-- The same callee is found, and it does the same. -/
theorem related_evalCallee (hcalls : calls.Alike calls') (e : Expr) :
    Related (fun f f' => ∀ line args, Alike (f line args) (f' line args))
      (evalCallee s calls input e) (evalCallee (s.renamed name) calls' input e) := by
  have he := alike_eval hcalls e
  cases e with
  | var _ callee =>
    rw [evalCallee, evalCallee]
    exact .pure fun line args => Run.alike_callName name hcalls line callee args
  | attr _ e method =>
    have he := alike_eval hcalls e
    unfold evalCallee
    split
    · exact .pure fun line _ => .bind (hcalls.block line method) fun text =>
        (Run.keeps_captured text).alike
    · refine Related.bind he ?_
      rintro v _ rfl
      exact .pure fun line args => Run.alike_callMethod name hcalls line v method args
  | _ =>
    rw [evalCallee, evalCallee]
    · refine Related.bind he ?_
      rintro v _ rfl
      exact .pure fun line args => Run.alike_call name hcalls line v args
    all_goals nofun
termination_by (sizeOf e, 1)

theorem alike_evalAll (hcalls : calls.Alike calls') : ∀ es : List Expr,
    Alike (evalAll s calls input es) (evalAll (s.renamed name) calls' input es)
  | [] => by
    rw [evalAll, evalAll]
    exact .pure []
  | e :: es => by
    rw [evalAll, evalAll]
    refine .bind (alike_eval hcalls e) fun v => ?_
    exact .bind (alike_evalAll hcalls es) fun vs => .pure _
termination_by es => (sizeOf es, 0)

theorem alike_evalSome (hcalls : calls.Alike calls') (keyed : Bool) :
    ∀ (kinds : List ArgKind) (es : List Expr), Alike (evalSome s calls input keyed kinds es)
      (evalSome (s.renamed name) calls' input keyed kinds es)
  | kind :: kinds, e :: es => by
    have hes := alike_evalSome hcalls keyed kinds es
    rw [evalSome, evalSome]
    split
    · refine .bind (alike_eval hcalls e) fun v => ?_
      exact .bind hes fun given => .pure _
    · exact hes
  | [], _ => by
    rw [evalSome, evalSome]
    · exact .pure []
    all_goals nofun
  | _ :: _, [] => by
    rw [evalSome, evalSome]
    · exact .pure []
    all_goals nofun
termination_by _ es => (sizeOf es, 0)

end

end Expr

/-! ### Targets -/

mutual

/-- A target is given a value alike under another name. -/
theorem Target.alike_assign (hcalls : calls.Alike calls') : ∀ (v : Value) (target : Target),
    Alike (target.assign s calls v) (target.assign (s.renamed name) calls' v)
  | v, .name key => by
    rw [assign, assign]
    exact (Run.keeps_store key v).alike
  | v, .attr line e key => by
    rw [assign, assign]
    refine .bind (Expr.alike_eval name .none hcalls e) fun v => ?_
    split
    · exact .modify fun m hm => hm.congr rfl rfl
    · exact .fail line _
  | v, .all line targets => by
    have htargets (vs : List Value) := Target.alike_assignAll hcalls line vs targets
    rw [assign, assign]
    refine .get_bind fun m _ => ?_
    split
    · exact htargets _
    · exact htargets _
    · exact .fail line _

theorem Target.alike_assignAll (hcalls : calls.Alike calls') (line : Nat) :
    ∀ (vs : List Value) (targets : List Target),
      Alike (assignAll s calls line vs targets)
        (assignAll (s.renamed name) calls' line vs targets)
  | vs, [] => by
    rw [assignAll, assignAll]
    split
    · exact .pure ()
    · exact .fail line _
  | [], _ :: _ => by
    rw [assignAll, assignAll]
    exact .fail line _
  | v :: vs, target :: targets => by
    rw [assignAll, assignAll]
    refine .bind (Target.alike_assign hcalls v target) fun _ => ?_
    exact Target.alike_assignAll hcalls line vs targets

end

/-! ### Statements -/

namespace Stmt

open TemplateCheck.Template.Expr (alike_eval related_evalCallee alike_evalSome)
open TemplateCheck.Template.Target (alike_assign)

mutual

/-- A statement that stands alone has the same text under another name. -/
theorem alike_exec (hcalls : calls.Alike calls') : ∀ stmt : Stmt, stmt.standsAlone →
    Alike (exec s calls stmt) (exec (s.renamed name) calls' stmt)
  | .text t, _ => by
    rw [exec, exec]
    exact .pure t
  | .print line e, _ => by
    rw [exec, exec]
    exact .bind (alike_eval name .none hcalls e) fun v => (Run.keeps_print line v).alike
  | .loop line target items condition recursive body others, h => by
    obtain ⟨hbody, hothers⟩ : standAlone body ∧ standAlone others := by
      rw [← Bool.and_eq_true]
      exact h
    rw [exec, exec]
    refine .bind (alike_eval name .none hcalls items) fun v => ?_
    refine .get_bind fun m _ => ?_
    refine .bind (Keeps.use line _).alike fun vs => ?_
    -- What is left to do with the items that the condition chooses.
    extract_lets sized again rounds rounds'
    have hagain : ∀ l, again = some l → standAlone l.body := by
      intro l hl
      obtain ⟨-, hl⟩ := Option.ite_none_right_eq_some.mp hl
      rw [← Option.some.inj hl]
      exact hbody
    have hrounds (vs : List Value) : Alike (rounds vs) (rounds' vs) := by
      refine .bind (.loop (fun v => ?_) line vs sized hagain) fun text => ?_
      · exact .bind (alike_assign name hcalls v target) fun _ => alike_execAll hcalls body hbody
      · split
        · exact alike_execAll hcalls others hothers
        · exact .pure text
    split
    · exact .bind (.pure vs) hrounds
    · rename_i at_ e
      refine .bind (.inFrame (.whichItems (fun v => ?_) vs) line Frame.empty) hrounds
      refine .bind (alike_assign name hcalls v target) fun _ => ?_
      exact .bind (alike_eval name .none hcalls e) fun v => (Run.keeps_condition at_ v).alike
  | .choose line condition yes no, h => by
    obtain ⟨hyes, hno⟩ : standAlone yes ∧ standAlone no := by
      rw [← Bool.and_eq_true]
      exact h
    rw [exec, exec]
    refine .bind (alike_eval name .none hcalls condition) fun v => ?_
    refine .bind (Run.keeps_condition line v).alike fun isTrue => ?_
    split
    · exact alike_execAll hcalls yes hyes
    · exact alike_execAll hcalls no hno
  | .bind line bindings body, h => by
    rw [exec, exec]
    refine .inFrame (.bind ?_ fun _ => alike_execAll hcalls body h) line Frame.empty
    refine .forM (fun (target, e) => ?_) bindings
    exact .bind (alike_eval name .none hcalls e) fun v => alike_assign name hcalls v target
  | .set target e, _ => by
    rw [exec, exec]
    refine .bind (alike_eval name .none hcalls e) fun v => ?_
    exact .bind (alike_assign name hcalls v target) fun _ => .pure ""
  | .capture target chain body, h => by
    rw [exec, exec]
    refine .bind (alike_execAll hcalls body h) fun text => ?_
    refine .bind (Run.keeps_captured text).alike fun input => ?_
    refine .bind (alike_eval name input hcalls chain) fun v => ?_
    exact .bind (alike_assign name hcalls v target) fun _ => .pure ""
  | .filter line chain body, h => by
    rw [exec, exec]
    refine .bind (alike_execAll hcalls body h) fun text => ?_
    refine .bind (Run.keeps_captured text).alike fun input => ?_
    exact .bind (alike_eval name input hcalls chain) fun v => (Run.keeps_print line v).alike
  | .escape line mode body, h => by
    rw [exec, exec]
    refine .bind (alike_eval name .none hcalls mode) fun v => ?_
    refine .bind (Run.keeps_escapingOf line v).alike fun escaping => ?_
    exact .withEscaping (alike_execAll hcalls body h) escaping
  | .block line _ body, h => by
    rw [exec, exec]
    exact .inFrame (alike_execAll hcalls body h) line Frame.empty
  | .required line, _ => by
    rw [exec, exec]
    exact .fail line _
  | .routine _ routineName params defaults body, h => by
    rw [exec, exec]
    refine .bind (Run.keeps_newRoutine s routineName params defaults h).alike fun v => ?_
    exact .bind (Run.keeps_store routineName v).alike fun _ => .pure ""
  | .callWith line _ callee kinds args params defaults body, h => by
    rw [exec, exec]
    refine Related.bind (related_evalCallee name .none hcalls callee) fun f f' hf => ?_
    change Alike _ _
    refine .bind (alike_evalSome name .none hcalls false kinds args) fun given => ?_
    refine .bind (alike_evalSome name .none hcalls true kinds args) fun keyed => ?_
    refine .bind (Run.keeps_newRoutine s "caller" params defaults h).alike fun caller => ?_
    refine .bind (Run.keeps_arguments line _ _).alike fun all => ?_
    exact .bind (hf line all) fun v => (Run.keeps_print line v).alike
  | .run call, _ => by
    rw [exec, exec]
    exact .bind (alike_eval name .none hcalls call) fun _ => .pure ""

/-- So have statements one after the other. -/
theorem alike_execAll (hcalls : calls.Alike calls') : ∀ body : List Stmt, standAlone body →
    Alike (execAll s calls body) (execAll (s.renamed name) calls' body)
  | [], _ => by
    rw [execAll, execAll]
    exact .pure ""
  | stmt :: rest, h => by
    obtain ⟨hstmt, hrest⟩ : stmt.standsAlone ∧ standAlone rest := by
      rw [← Bool.and_eq_true]
      exact h
    rw [execAll, execAll]
    refine .bind (alike_exec hcalls stmt hstmt) fun text => ?_
    exact .bind (alike_execAll hcalls rest hrest) fun others => .pure _

end

end Stmt

/-! ### Other parts of the template -/

theorem Routine.alike_run (hcalls : calls.Alike calls') (line id : Nat) (args : List Value) :
    Alike (Routine.run s calls line id args)
      (Routine.run (s.renamed name) calls' line id args) := by
  unfold Routine.run
  refine .get_bind fun m hm => ?_
  split
  · exact .fail line _
  · rename_i r hr
    refine .bind (Keeps.use line _).alike fun (vs, caller) => .get_bind fun outer houter => ?_
    -- What is left to do once the routine knows the body that its call passes.
    extract_lets frame inner finish finish'
    have hfinish (u : Unit) : Alike (finish u) (finish' u) := by
      refine .bind (.forM ?_ (r.bindings vs)) fun _ => ?_
      · rintro ⟨p, v, _ | e⟩
        · exact (Run.keeps_store p v).alike
        · dsimp only
          split
          · exact .bind (Expr.alike_eval name .none hcalls e) fun v => (Run.keeps_store p v).alike
          · exact .bind (.pure v) fun v => (Run.keeps_store p v).alike
      · refine .bind (Stmt.alike_execAll name hcalls r.body (hm.routines id r hr)) fun text => ?_
        exact .bind (.modify fun m hm => hm.congr rfl rfl) fun _ => (Run.keeps_captured text).alike
    split
    · exact .fail line _
    · have hinner : inner.StandsAlone := houter.congr rfl rfl
      refine .bind (Keeps.set hinner).alike fun _ => ?_
      split
      · exact .bind (Run.keeps_store "caller" _).alike hfinish
      · exact hfinish ()

theorem LoopBody.alike_run (hcalls : calls.Alike calls') {l : LoopBody}
    (hl : Stmt.standAlone l.body) (v : Value) :
    Alike (l.run s calls v) (l.run (s.renamed name) calls' v) := by
  refine .get_bind fun m _ => ?_
  refine .bind (Keeps.use l.line _).alike fun vs => ?_
  refine .loop (fun w => ?_) l.line vs _ fun again hagain => Option.some.inj hagain ▸ hl
  exact .bind (Target.alike_assign name hcalls w l.target) fun _ =>
    Stmt.alike_execAll name hcalls l.body hl

theorem Program.alike_runBlock (hs : s.program.standsAlone) (hcalls : calls.Alike calls')
    (line : Nat) (block : String) :
    Alike (Program.runBlock s calls line block)
      (Program.runBlock (s.renamed name) calls' line block) := by
  refine .get_bind fun m _ => ?_
  rw [Setting.program_renamed]
  split
  · rename_i body _ hbody
    have hmem := mem_of_lookup hbody
    have hbody := Stmt.standAlone_of_mem_blocksIn _ hs hmem
    exact .inFrame (Stmt.alike_execAll name hcalls body hbody) line Frame.empty
  · exact .fail line _

/-- However many levels deep parts of a template that stands alone run each other, they do the same
under another name. -/
theorem Calls.alike_upTo (hs : s.program.standsAlone) (n : Nat) :
    (Calls.upTo s n).Alike (Calls.upTo (s.renamed name) n) := by
  induction n with
  | zero =>
    exact
      { routine := fun line _ _ => .fail line _
        again := fun line _ _ _ => .fail line _
        block := fun line _ => .fail line _ }
  | succ n ih =>
    exact
      { routine := Routine.alike_run name ih
        again := fun _ _ v hbody => LoopBody.alike_run name ih hbody v
        block := Program.alike_runBlock name hs ih }

/-- The text of a template that stands alone is the same under every name, and so is the fault if
there is no text. -/
theorem Setting.render_renamed (hs : s.program.standsAlone) (policy : Policy) :
    (s.renamed name).render policy = s.render policy := by
  have hcalls := Calls.alike_upTo name hs (Run.levelLimit + 2)
  have hbody : Alike (Stmt.execAll s _ s.program.body) (Stmt.execAll (s.renamed name) _ _) :=
    Stmt.alike_execAll name hcalls s.program.body hs
  have hagree := hbody (Machine.standsAlone_start s) policy
  rw [render, render, Machine.start_renamed, Setting.program_renamed]
  generalize Stmt.execAll s _ s.program.body (Machine.start s) policy = r,
    Stmt.execAll (s.renamed name) _ s.program.body (Machine.start s) policy = r' at hagree ⊢
  cases hagree with
  | failed fault => rfl
  | done h _ => exact congrArg Except.ok h.symm

end TemplateCheck.Template
