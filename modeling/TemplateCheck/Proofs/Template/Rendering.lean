import TemplateCheck.Proofs.Template.Reading

/-!
# How texts with names in them are rendered

The statements of a layout change nothing that later ones could see: texts yield themselves, and
each name yields what it stands for in the model, or stops the rendering.

* `exec_print_of_some`, `exec_print_of_none` — what is printed for a name in a template that has
  just begun;
* `Layout.outcome` — the text of a layout, or the first fault in it and its line;
* `PrintsAs`, `Layout.execAll_body` — the statements of a layout do as much if its names do.
-/

namespace TemplateCheck.Template

namespace Run

variable {α β : Type} {run : Run α} {m : Machine} {policy : Policy}

theorem bind_of_ok {a : α} {m' : Machine} (h : run m policy = .ok (a, m')) (f : α → Run β) :
    (run >>= f) m policy = f a m' policy := by
  change (run m policy >>= fun (a, m') => f a m' policy) = f a m' policy
  rw [h]
  rfl

theorem bind_of_error {fault : FaultKind × Nat} (h : run m policy = .error fault)
    (f : α → Run β) : (run >>= f) m policy = .error fault := by
  change (run m policy >>= fun (a, m') => f a m' policy) = .error fault
  rw [h]
  rfl

end Run

section

variable {s : Setting} {calls : Calls} {policy : Policy} {key : String}

/-! ### A name -/

theorem exec_print_name (m : Machine) (line : Nat) :
    Stmt.exec s calls (.print line (.var line key)) m policy =
      Run.print line ((m.lookup s key).getD (.undefined false)) m policy := by
  have heval : Expr.eval s calls .none (.var line key) m policy =
      .ok ((m.lookup s key).getD (.undefined false), m) := by
    rw [Expr.eval]
    rfl
  rw [Stmt.exec, Run.bind_of_ok heval]

/-- At first only the model gives names a meaning, and the functions that there are. -/
theorem lookup_start (hfunctions : Function.isKnown s.functions key = false) :
    (Machine.start s).lookup s key = s.model.get? key := by
  have hframe : ({ Frame.empty with base := .model } : Frame).find? s (Machine.start s) key =
      s.model.get? key := rfl
  simp only [Machine.lookup, Machine.start, List.findSome?_cons, List.findSome?_nil] at hframe ⊢
  rw [hframe, hfunctions]
  cases s.model.get? key <;> rfl

/-- A name that the model has a text for is printed as that text. -/
theorem exec_print_of_some {v : String} (hv : s.model.get? key = some (.ofString v))
    (hfunctions : Function.isKnown s.functions key = false) (line : Nat) :
    Stmt.exec s calls (.print line (.var line key)) (Machine.start s) policy =
      .ok (if s.escaping then escapeHtml v else v, Machine.start s) := by
  rw [exec_print_name, lookup_start hfunctions, hv]
  rfl

/-- A name that means nothing is printed as nothing, unless the policy forbids to use it. -/
theorem exec_print_of_none (hmodel : s.model.get? key = none)
    (hfunctions : Function.isKnown s.functions key = false) (line : Nat) :
    Stmt.exec s calls (.print line (.var line key)) (Machine.start s) policy =
      if policy = .strict then .error (.undefinedValue, line) else .ok ("", Machine.start s) := by
  have huse : Run.use line (Use.accept (.undefined false)) (Machine.start s) policy =
      if policy = .strict then .error (.undefinedValue, line) else .ok ((), Machine.start s) := by
    by_cases hpolicy : policy = .strict
    · simp [Run.use, Use.accept, hpolicy]
    · simp [Run.use, Use.accept, hpolicy]
  rw [exec_print_name, lookup_start hfunctions, hmodel, Option.getD_none, Run.print]
  by_cases hpolicy : policy = .strict
  · rw [if_pos hpolicy] at huse ⊢
    rw [Run.bind_of_error huse]
  · rw [if_neg hpolicy] at huse ⊢
    rw [Run.bind_of_ok huse]
    change Except.ok (Value.printed s.escaping (.undefined false), Machine.start s) = _
    cases s.escaping <;> rfl

/-! ### One statement after the other -/

theorem execAll_cons_of_ok {stmt : Stmt} {stmts : List Stmt} {m : Machine} {text : String}
    (h : Stmt.exec s calls stmt m policy = .ok (text, m)) :
    Stmt.execAll s calls (stmt :: stmts) m policy =
      (Stmt.execAll s calls stmts m policy).map fun (rest, m') => (text ++ rest, m') := by
  rw [Stmt.execAll, Run.bind_of_ok h]
  change (Stmt.execAll s calls stmts m policy >>=
    fun (rest, m') => Except.ok (text ++ rest, m')) = _
  cases Stmt.execAll s calls stmts m policy <;> rfl

theorem execAll_cons_of_error {stmt : Stmt} {stmts : List Stmt} {m : Machine}
    {fault : FaultKind × Nat} (h : Stmt.exec s calls stmt m policy = .error fault) :
    Stmt.execAll s calls (stmt :: stmts) m policy = .error fault := by
  rw [Stmt.execAll, Run.bind_of_error h]

theorem execAll_spoken (text : List Char) (stmts : List Stmt) (m : Machine) :
    Stmt.execAll s calls (spoken text ++ stmts) m policy =
      (Stmt.execAll s calls stmts m policy).map fun (rest, m') =>
        (String.ofList text ++ rest, m') := by
  cases text with
  | nil =>
    have hstmts : spoken [] ++ stmts = stmts := rfl
    rw [hstmts]
    cases Stmt.execAll s calls stmts m policy with
    | error fault => rfl
    | ok r => simp [Except.map]
  | cons c text =>
    have h : Stmt.exec s calls (.text (String.ofList (c :: text))) m policy =
        .ok (String.ofList (c :: text), m) := by
      rw [Stmt.exec]
      rfl
    exact execAll_cons_of_ok h

end

/-! ### Layouts -/

/-- The text of a layout that starts on a line, if `value` yields what the names in it stand for: up
to the first name of which it does not. -/
def Layout.outcome (value : String → Except FaultKind (List Char)) (line : Nat) :
    Layout → Except (FaultKind × Nat) (List Char)
  | .last text => .ok text
  | .slot front key rest =>
    let here := line + Token.lineEnds front
    match value key with
    | .error kind => .error (kind, here)
    | .ok cs => (rest.outcome value here).map fun text => front ++ (cs ++ text)

/-- Wherever a name is printed, that does what `value` says, and leaves the machine as it is. -/
def PrintsAs (s : Setting) (calls : Calls) (m : Machine) (policy : Policy)
    (value : String → Except FaultKind (List Char)) (key : String) : Prop :=
  ∀ line, Stmt.exec s calls (.print line (.var line key)) m policy =
    match value key with
    | .error kind => .error (kind, line)
    | .ok cs => .ok (String.ofList cs, m)

/-- The statements of a layout do what the names in it do, one after the other. -/
theorem Layout.execAll_body {s : Setting} {calls : Calls} {policy : Policy} {m : Machine}
    {value : String → Except FaultKind (List Char)} {layout : Layout}
    (hvalue : ∀ key ∈ layout.keys, PrintsAs s calls m policy value key) (line : Nat) :
    Stmt.execAll s calls (layout.body line) m policy =
      (layout.outcome value line).map fun text => (String.ofList text, m) := by
  induction layout generalizing line with
  | last text =>
    rw [body, ← List.append_nil (spoken text), execAll_spoken, Stmt.execAll]
    change Except.ok (String.ofList text ++ "", m) = Except.ok (String.ofList text, m)
    rw [String.append_empty]
  | slot front key rest ih =>
    rw [keys, List.forall_mem_cons] at hvalue
    have hkey := hvalue.1 (line + Token.lineEnds front)
    have hrest := ih hvalue.2 (line + Token.lineEnds front)
    rw [body, execAll_spoken, outcome]
    cases hk : value key with
    | error kind =>
      simp only [hk] at hkey
      rw [execAll_cons_of_error hkey]
      rfl
    | ok cs =>
      simp only [hk] at hkey
      rw [execAll_cons_of_ok hkey, hrest]
      cases rest.outcome value (line + Token.lineEnds front) with
      | error fault => rfl
      | ok text => simp [Except.map, String.ofList_append]

end TemplateCheck.Template
