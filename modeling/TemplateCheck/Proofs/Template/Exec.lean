import TemplateCheck.Proofs.Template.Eval

/-!
# Statements under a laxer policy

The text of a statement stays the same under a laxer policy. As for expressions, this is shown by
induction over statements, while what runs other parts of the template is assumed to keep what comes
out of it; `Calls.stable_upTo` does away with this assumption, level by level.

* `Stmt.stable_exec` — the texts of statements;
* `Routine.stable_run`, `LoopBody.stable_run`, `Program.stable_runBlock`,
  `Program.stable_runWhole` — other parts of the template;
* `Calls.stable_upTo` — all of these, so many levels deep;
* `Setting.render_stable` — the text of a whole template.
-/

namespace TemplateCheck.Template

open Run (Stable)

/-! ### Parts of statements -/

namespace Run

variable {α : Type}

theorem stable_print (line : Nat) (v : Value) : Stable (print line v) := by
  refine .bind (.use (Use.stable_accept v) line) fun _ => ?_
  exact .bind .get fun m => .pure _

theorem Stable.eachItem {step : Nat → Value → Run String} (hstep : ∀ index v, Stable (step index v))
    (index : Nat) (vs : List Value) : Stable (eachItem step index vs) := by
  induction vs generalizing index with
  | nil => exact .pure ""
  | cons v vs ih => exact (hstep index v).bind fun text => (ih (index + 1)).bind fun _ => .pure _

theorem Stable.whichItems {step : Value → Run Bool} (hstep : ∀ v, Stable (step v))
    (vs : List Value) : Stable (whichItems step vs) := by
  induction vs with
  | nil => exact .pure []
  | cons v vs ih =>
    refine .bind (hstep v) fun holds => ?_
    split
    · exact .bind ih fun kept => .pure (v :: kept)
    · exact ih

theorem stable_loopDepth : Stable loopDepth := by grind [loopDepth]

theorem Stable.loop {step : Value → Run String} (hstep : ∀ v, Stable (step v)) (line : Nat)
    (items : List Value) (sized : Bool) (again : Option LoopBody) :
    Stable (loop line items sized again step) := by
  refine .bind stable_loopDepth fun depth => ?_
  refine .bind .get fun m => ?_
  refine .bind (.modify _) fun _ => ?_
  refine .inFrame (.eachItem (fun index v => ?_) 0 items) line _
  exact .bind (.modify _) fun _ => hstep v

theorem stable_escapingOf (line : Nat) (v : Value) : Stable (escapingOf line v) := by
  unfold escapingOf
  grind

theorem Stable.withEscaping {run : Run α} (hrun : Stable run) (escaping : Bool) :
    Stable (withEscaping escaping run) := by
  refine .bind .get fun m => ?_
  refine .bind (.modify _) fun _ => ?_
  refine .bind hrun fun a => ?_
  exact .bind (.modify _) fun _ => .pure a

theorem stable_newRoutine (s : Setting) (name : String) (params : List String)
    (defaults : List Expr) (body : List Stmt) :
    Stable (newRoutine s name params defaults body) := by
  grind [newRoutine]

variable {s : Setting} {calls : Calls} (hcalls : calls.Stable)
include hcalls

/-- Of the templates to choose from, only the template itself is there, under every policy. -/
theorem stable_try (line : Nat) (optional : Bool) (choices vs : List Value) :
    Stable (include_.try_ s calls line optional choices vs) := by
  induction vs with
  | nil =>
    rw [include_.try_]
    split
    · exact .pure ""
    · exact .fail line _
  | cons v vs ih =>
    rw [include_.try_]
    split
    · exact .fail line _
    · split
      · exact hcalls.whole line
      · exact ih

theorem stable_include_ (line : Nat) (name : Value) (optional : Bool) :
    Stable (include_ s calls line name optional) :=
  stable_try hcalls line optional _ _

end Run

variable {s : Setting} {calls : Calls}

namespace Stmt

open TemplateCheck.Template.Expr (stable_eval stable_evalCallee stable_evalSome)
open TemplateCheck.Template.Target (stable_assign)

mutual

/-- A statement has the same text under a laxer policy. -/
theorem stable_exec (hcalls : calls.Stable) : ∀ stmt : Stmt, Stable (exec s calls stmt)
  | .text t => by
    rw [exec]
    exact .pure t
  | .print line e => by
    rw [exec]
    exact .bind (stable_eval .none hcalls e) fun v => Run.stable_print line v
  | .loop line target items condition recursive body others => by
    rw [exec]
    refine .bind (stable_eval .none hcalls items) fun v => ?_
    refine .bind .get fun m => ?_
    refine .bind (.use (Use.stable_itemsOf _) line) fun vs => ?_
    -- What is left to do with the items that the condition chooses.
    extract_lets sized again rounds
    have hrounds (vs : List Value) : Stable (rounds vs) := by
      refine .bind (.loop (fun v => ?_) line vs sized again) fun text => ?_
      · exact .bind (stable_assign hcalls v target) fun _ => stable_execAll hcalls body
      · split
        · exact stable_execAll hcalls others
        · exact .pure text
    split
    · exact .bind (.pure vs) hrounds
    · rename_i at_ e
      refine .bind (.inFrame (.whichItems (fun v => ?_) vs) line Frame.empty) hrounds
      refine .bind (stable_assign hcalls v target) fun _ => ?_
      exact .bind (stable_eval .none hcalls e) (Run.stable_condition at_)
  | .choose line condition yes no => by
    rw [exec]
    refine .bind (stable_eval .none hcalls condition) fun v => ?_
    refine .bind (Run.stable_condition line v) fun isTrue => ?_
    split
    · exact stable_execAll hcalls yes
    · exact stable_execAll hcalls no
  | .bind line bindings body => by
    rw [exec]
    refine .inFrame (.bind ?_ fun _ => stable_execAll hcalls body) line Frame.empty
    refine .forM (fun (target, e) => ?_) bindings
    exact .bind (stable_eval .none hcalls e) fun v => stable_assign hcalls v target
  | .set target e => by
    rw [exec]
    refine .bind (stable_eval .none hcalls e) fun v => ?_
    exact .bind (stable_assign hcalls v target) fun _ => .pure ""
  | .capture target chain body => by
    rw [exec]
    refine .bind (stable_execAll hcalls body) fun text => ?_
    refine .bind (Run.stable_captured text) fun input => ?_
    refine .bind (stable_eval input hcalls chain) fun v => ?_
    exact .bind (stable_assign hcalls v target) fun _ => .pure ""
  | .filter line chain body => by
    rw [exec]
    refine .bind (stable_execAll hcalls body) fun text => ?_
    refine .bind (Run.stable_captured text) fun input => ?_
    exact .bind (stable_eval input hcalls chain) fun v => Run.stable_print line v
  | .escape line mode body => by
    rw [exec]
    refine .bind (stable_eval .none hcalls mode) fun v => ?_
    refine .bind (Run.stable_escapingOf line v) fun escaping => ?_
    exact .withEscaping (stable_execAll hcalls body) escaping
  | .block line _ body => by
    rw [exec]
    exact .inFrame (stable_execAll hcalls body) line Frame.empty
  | .required line => by
    rw [exec]
    exact .fail line _
  | .extend line e => by
    rw [exec]
    refine .bind (stable_eval .none hcalls e) fun v => ?_
    split
    · exact .fail line _
    · exact .fail line _
  | .include_ line e optional => by
    rw [exec]
    exact .bind (stable_eval .none hcalls e) fun v => Run.stable_include_ hcalls line v optional
  | .import_ line e target => by
    rw [exec]
    refine .bind (.inFrame ?_ line Frame.empty) fun (printed, names) => ?_
    · refine .bind (stable_eval .none hcalls e) fun v => ?_
      refine .bind (Run.stable_include_ hcalls line v false) fun printed => ?_
      exact .bind Run.stable_top fun frame => .pure _
    · exact .bind (stable_assign hcalls _ target) fun _ => .pure ""
  | .importNames line e names => by
    rw [exec]
    refine .bind (.inFrame ?_ line Frame.empty) fun found => ?_
    · refine .bind (stable_eval .none hcalls e) fun v => ?_
      refine .bind (Run.stable_include_ hcalls line v false) fun _ => ?_
      exact .bind .get fun m => .pure _
    · refine .bind (.forM (fun (target, v) => ?_) found.reverse) fun _ => .pure ""
      exact Run.stable_store target v
  | .routine _ name params defaults body => by
    rw [exec]
    refine .bind (Run.stable_newRoutine s name params defaults body) fun v => ?_
    exact .bind (Run.stable_store name v) fun _ => .pure ""
  | .callWith line _ callee kinds args params defaults body => by
    rw [exec]
    refine (stable_evalCallee .none hcalls callee).bind fun f hf => ?_
    refine .bind (stable_evalSome .none hcalls false kinds args) fun given => ?_
    refine .bind (stable_evalSome .none hcalls true kinds args) fun keyed => ?_
    refine .bind (Run.stable_newRoutine s "caller" params defaults body) fun caller => ?_
    refine .bind (Run.stable_arguments line _ _) fun all => ?_
    exact .bind (hf line all) fun v => Run.stable_print line v
  | .run call => by
    rw [exec]
    exact .bind (stable_eval .none hcalls call) fun _ => .pure ""

/-- So have statements one after the other. -/
theorem stable_execAll (hcalls : calls.Stable) :
    ∀ body : List Stmt, Stable (execAll s calls body)
  | [] => by
    rw [execAll]
    exact .pure ""
  | stmt :: rest => by
    rw [execAll]
    refine .bind (stable_exec hcalls stmt) fun text => ?_
    exact .bind (stable_execAll hcalls rest) fun others => .pure _

end

end Stmt

/-! ### Other parts of the template -/

theorem Routine.stable_run (hcalls : calls.Stable) (line id : Nat) (args : List Value) :
    Stable (Routine.run s calls line id args) := by
  unfold Routine.run
  refine .bind .get fun m => ?_
  split
  · exact .fail line _
  · rename_i r _
    refine .bind (.use (.of _) line) fun (vs, caller) => ?_
    refine .bind .get fun outer => ?_
    -- What is left to do once the routine knows the body that its call passes.
    extract_lets frame inner finish
    have hfinish (u : Unit) : Stable (finish u) := by
      refine .bind (.forM ?_ (r.bindings vs)) fun _ => ?_
      · rintro ⟨p, v, _ | e⟩
        · exact Run.stable_store p v
        · dsimp only
          split
          · exact .bind (Expr.stable_eval .none hcalls e) fun v => Run.stable_store p v
          · exact .bind (.pure v) fun v => Run.stable_store p v
      · refine .bind (Stmt.stable_execAll hcalls r.body) fun text => ?_
        exact .bind (.modify _) fun _ => Run.stable_captured text
    split
    · exact .fail line _
    · refine .bind (.set inner) fun _ => ?_
      split
      · exact .bind (Run.stable_store "caller" _) hfinish
      · exact hfinish ()

theorem LoopBody.stable_run (hcalls : calls.Stable) (l : LoopBody) (v : Value) :
    Stable (l.run s calls v) := by
  refine .bind .get fun m => ?_
  refine .bind (.use (Use.stable_itemsOf _) l.line) fun vs => ?_
  refine .loop (fun w => ?_) l.line vs _ _
  exact .bind (Target.stable_assign hcalls w l.target) fun _ => Stmt.stable_execAll hcalls l.body

theorem Program.stable_runBlock (hcalls : calls.Stable) (line : Nat) (name : String) :
    Stable (Program.runBlock s calls line name) := by
  refine .bind .get fun m => ?_
  split
  · exact .inFrame (Stmt.stable_execAll hcalls _) line Frame.empty
  · exact .fail line _

theorem Program.stable_runWhole (hcalls : calls.Stable) (line : Nat) :
    Stable (Program.runWhole s calls line) := by
  refine .bind .get fun outer => ?_
  extract_lets depth
  split
  · exact .fail line _
  · refine .bind Run.stable_top fun frame => ?_
    refine .bind (.modify _) fun _ => ?_
    refine .bind (.failingAs (Stmt.stable_execAll hcalls _) line _) fun text => ?_
    exact .bind (.modify _) fun _ => .pure text

/-- However many levels deep parts of a template run each other, a laxer policy changes nothing that
comes out of them. -/
theorem Calls.stable_upTo (s : Setting) (n : Nat) : (Calls.upTo s n).Stable := by
  induction n with
  | zero =>
    exact
      { routine := fun line _ _ => .fail line _
        again := fun line _ _ => .fail line _
        block := fun line _ => .fail line _
        whole := fun line => .fail line _ }
  | succ n ih =>
    exact
      { routine := Routine.stable_run ih
        again := fun _ => LoopBody.stable_run ih
        block := Program.stable_runBlock ih
        whole := Program.stable_runWhole ih }

/-- The text of a template under a policy is its text under every laxer policy. -/
theorem Setting.render_stable (s : Setting) {p q : Policy} (hpq : p.RelaxedTo q) {text : String}
    (h : s.render p = .ok text) : s.render q = .ok text := by
  have hcalls := Calls.stable_upTo s (Run.levelLimit + 2)
  have hbody : Stable (Stmt.execAll s _ s.program.body) := Stmt.stable_execAll hcalls _
  rw [Setting.render] at h ⊢
  split at h
  · rename_i found m hrun
    rw [hbody hpq (Machine.start s) (found, m) hrun]
    exact h
  · cases h

end TemplateCheck.Template
