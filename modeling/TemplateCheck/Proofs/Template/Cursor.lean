import TemplateCheck.Template.Cursor

/-!
# How readers use tokens

What the readers of tokens yield, and where they leave the cursor, told by the token that comes
next.

* `Cursor.pass` — the cursor behind the next token;
* `Reader.bind_of_ok`, `Reader.next_cons`, `Reader.accept_of_false`, `Reader.want_of_true` and
  others — one step after the other;
* `Reader.fold_of_none`, `Reader.collect_of_none` — loops that find nothing;
* `Reader.Finds`, `Reader.collect_of_finds` — a loop that finds something time after time.
-/

namespace TemplateCheck.Template

/-- Behind the next token. -/
def Cursor.pass (c : Cursor) : Cursor :=
  { c with last := (c.rest.head?.map (·.line)).getD c.last, rest := c.rest.tail }

theorem Cursor.rest_pass {c : Cursor} {lexeme : Lexeme} {rest : List Lexeme}
    (h : c.rest = lexeme :: rest) : c.pass.rest = rest := by
  rw [pass, h]
  rfl

namespace Reader

variable {α β : Type} {c c' : Cursor} {lexeme : Lexeme} {rest : List Lexeme}

/-! ### Using tokens -/

/-- Behind a reader that succeeds comes what follows it. -/
theorem bind_of_ok {r : Reader α} {a : α} (h : r c = .ok (a, c')) (f : α → Reader β) :
    (r >>= f) c = f a c' := by
  change (r c >>= fun (a, c') => f a c') = f a c'
  rw [h]
  rfl

theorem peek?_cons (h : c.rest = lexeme :: rest) : peek? c = .ok (some lexeme.token, c) := by
  simp [peek?, h]

theorem next?_cons (h : c.rest = lexeme :: rest) : next? c = .ok (some lexeme.token, c.pass) := by
  rw [next?, bind_of_ok (peek?_cons h)]
  rfl

theorem next_cons (h : c.rest = lexeme :: rest) : next c = .ok (lexeme.token, c.pass) := by
  rw [next, bind_of_ok (next?_cons h)]
  rfl

theorem get_eq_ok (c : Cursor) : (get : Reader Cursor) c = .ok (c, c) :=
  rfl

theorem lastLine_eq_ok (c : Cursor) : lastLine c = .ok (c.last, c) :=
  rfl

theorem line_cons (h : c.rest = lexeme :: rest) : line c = .ok (lexeme.line, c) := by
  rw [line, bind_of_ok (get_eq_ok c), h]
  rfl

theorem sees_cons (h : c.rest = lexeme :: rest) (p : Token → Bool) :
    sees p c = .ok (p lexeme.token, c) := by
  rw [sees, bind_of_ok (peek?_cons h)]
  rfl

theorem accept_of_false (h : c.rest = lexeme :: rest) {p : Token → Bool}
    (hp : p lexeme.token = false) : accept p c = .ok (false, c) := by
  rw [accept, bind_of_ok (sees_cons h p), hp]
  rfl

/-- What comes next is not used, and the other branch is taken. -/
theorem ite_accept_of_false (h : c.rest = lexeme :: rest) {p : Token → Bool}
    (hp : p lexeme.token = false) (yes no : Reader α) :
    (do if ← accept p then yes else no) c = no c := by
  rw [bind_of_ok (accept_of_false h hp)]
  rfl

theorem want_of_true (h : c.rest = lexeme :: rest) {p : Token → Bool}
    (hp : p lexeme.token = true) : want p c = .ok ((), c.pass) := by
  rw [want, bind_of_ok (next_cons h), hp]
  rfl

/-! ### Going on -/

theorem foldUpTo_of_none {step : α → Reader (Option α)} {a : α} (h : step a c = .ok (none, c'))
    (n : Nat) : foldUpTo step (n + 1) a c = .ok (a, c') := by
  rw [foldUpTo, bind_of_ok h]
  rfl

theorem foldUpTo_of_some {step : α → Reader (Option α)} {a b : α}
    (h : step a c = .ok (some b, c')) (n : Nat) :
    foldUpTo step (n + 1) a c = foldUpTo step n b c' := by
  rw [foldUpTo, bind_of_ok h]

theorem fold_of_none {step : α → Reader (Option α)} {a : α} (h : step a c = .ok (none, c')) :
    fold step a c = .ok (a, c') := by
  rw [fold, bind_of_ok (get_eq_ok c), foldUpTo_of_none h]

/-- Put what a step finds in front of what was found before. -/
def gather (step : Nat → Reader (Option α)) (found : List α) : Reader (Option (List α)) := do
  return (← step found.length).map (· :: found)

theorem gather_of_none {step : Nat → Reader (Option α)} {found : List α}
    (h : step found.length c = .ok (none, c')) : gather step found c = .ok (none, c') := by
  rw [gather, bind_of_ok h]
  rfl

theorem gather_of_some {step : Nat → Reader (Option α)} {found : List α} {a : α}
    (h : step found.length c = .ok (some a, c')) :
    gather step found c = .ok (some (a :: found), c') := by
  rw [gather, bind_of_ok h]
  rfl

theorem collect_of_fold {step : Nat → Reader (Option α)} {found : List α}
    (h : fold (gather step) [] c = .ok (found, c')) : collect step c = .ok (found.reverse, c') := by
  change (fold (gather step) [] >>= fun found => pure found.reverse) c = _
  rw [bind_of_ok h]
  rfl

theorem collect_of_none {step : Nat → Reader (Option α)} (h : step 0 c = .ok (none, c')) :
    collect step c = .ok ([], c') :=
  collect_of_fold (fold_of_none (gather_of_none h))

/-- What a step finds, time after time, until it finds nothing. -/
inductive Finds (step : Reader (Option α)) : Cursor → List α → Cursor → Prop
  | done {c c' : Cursor} (h : step c = .ok (none, c')) : Finds step c [] c'
  | more {c c' c'' : Cursor} {a : α} {as : List α} (h : step c = .ok (some a, c'))
    (hrest : Finds step c' as c'') : Finds step c (a :: as) c''

/-- What is found is gathered in reverse, if there are rounds enough. -/
theorem foldUpTo_of_finds {step : Reader (Option α)} {as : List α} (h : Finds step c as c')
    {n : Nat} (hn : as.length < n) (found : List α) :
    foldUpTo (gather fun _ => step) n found c = .ok (as.reverse ++ found, c') := by
  induction h generalizing n found with
  | done hstep =>
    obtain ⟨n, rfl⟩ := Nat.exists_eq_succ_of_ne_zero (Nat.ne_of_gt hn)
    exact foldUpTo_of_none (gather_of_none hstep) n
  | more hstep _ ih =>
    obtain ⟨n, rfl⟩ := Nat.exists_eq_succ_of_ne_zero (Nat.ne_zero_of_lt hn)
    rw [foldUpTo_of_some (gather_of_some hstep), ih (Nat.lt_of_succ_lt_succ hn)]
    simp

/-- There are rounds enough where there is no more to find than there are tokens. -/
theorem collect_of_finds {step : Reader (Option α)} {as : List α} (h : Finds step c as c')
    (hlen : as.length ≤ c.size) : collect (fun _ => step) c = .ok (as, c') := by
  have hfold : fold (gather fun _ => step) [] c = .ok (as.reverse, c') := by
    rw [fold, bind_of_ok (get_eq_ok c), foldUpTo_of_finds h (Nat.lt_succ_of_le hlen),
      List.append_nil]
  rw [collect_of_fold hfold, List.reverse_reverse]

end Reader

end TemplateCheck.Template
