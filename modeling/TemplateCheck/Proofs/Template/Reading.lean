import TemplateCheck.Proofs.Template.Cursor
import TemplateCheck.Proofs.Template.Layout
import TemplateCheck.Parser

/-!
# How texts with names in them are read

A name alone in its tag goes through all levels of the grammar of expressions: each level reads it
with the level below, sees the end of the tag, and adds nothing.

* `ReadsName` — a reader of expressions reads a name that is alone in its tag as that name;
* `ReadsName.primary`, …, `ReadsName.whole` — the readers of all levels do;
* `Layout.body` — the statements of a layout;
* `Program.ofLexed_lexemes` — the tokens of a layout are read as its statements;
* `Program.compile_source` — a layout as it is written is compiled to them.
-/

namespace TemplateCheck.Template

open Token (lineEnds dataToken)

/-! ### A name alone in its tag -/

/-- The tokens that come next are a name and the end of its tag. -/
def Cursor.AtName (c : Cursor) (key : String) (line : Nat) : Prop :=
  ∃ rest, c.rest = ⟨.name key, line⟩ :: ⟨.closeVariable, line⟩ :: rest

/-- A reader reads a name that is alone in its tag, and nothing else, as that name. -/
def ReadsName (key : String) (r : Reader Expr) : Prop :=
  ∀ c line, c.AtName key line → r c = .ok (.var line key, c.pass)

namespace ReadsName

open Reader Grammar

variable {key : String} {r : Reader Expr}

/-! ### Values and what stands behind them -/

theorem primary (hword : wordValue? key = none) (g : Grammar) : ReadsName key (primary g) := by
  rintro c line ⟨rest, hc⟩
  rw [Grammar.primary, bind_of_ok (line_cons hc), bind_of_ok (next_cons hc)]
  simp only [hword]
  rfl

theorem signed (h : ReadsName key r) : ReadsName key (signed r) := by
  rintro c line ⟨rest, hc⟩
  rw [Grammar.signed, bind_of_ok (collect_of_none ?_)]
  · rw [bind_of_ok (h c line ⟨rest, hc⟩)]
    rfl
  · rw [bind_of_ok (line_cons hc), ite_accept_of_false hc rfl]
    rfl

theorem postfixes_of_closed {c : Cursor} {line : Nat} {rest : List Lexeme}
    (hc : c.rest = ⟨.closeVariable, line⟩ :: rest) (g : Grammar) (here : Nat) (e : Expr) :
    postfixes g here e c = .ok (e, c) := by
  have hnone : postfix1 g (here, e) c = .ok (none, c) := by
    rw [postfix1, bind_of_ok (line_cons hc), ite_accept_of_false hc rfl, ite_accept_of_false hc rfl,
      bind_of_ok (sees_cons hc _)]
    rfl
  rw [postfixes, bind_of_ok (fold_of_none hnone)]
  rfl

theorem filter1_of_closed {c : Cursor} {line : Nat} {rest : List Lexeme}
    (hc : c.rest = ⟨.closeVariable, line⟩ :: rest) (g : Grammar) (value : Reader Expr) (e : Expr) :
    filter1 g value e c = .ok (none, c) := by
  rw [filter1, ite_accept_of_false hc rfl, ite_accept_of_false hc rfl]
  rfl

theorem operand (h : ReadsName key r) (g : Grammar) : ReadsName key (operand g r) := by
  rintro c line ⟨rest, hc⟩
  have hpass := Cursor.rest_pass hc
  rw [Grammar.operand, bind_of_ok (line_cons hc), bind_of_ok (h.signed c line ⟨rest, hc⟩),
    bind_of_ok (postfixes_of_closed hpass g line _)]
  exact fold_of_none (filter1_of_closed hpass g r _)

/-! ### Operators -/

theorem level (h : ReadsName key r) {operator? : Token → Option BinaryOp}
    (hop : operator? .closeVariable = none) : ReadsName key (level operator? r) := by
  rintro c line ⟨rest, hc⟩
  have hpass := Cursor.rest_pass hc
  rw [Grammar.level, bind_of_ok (line_cons hc), bind_of_ok (h c line ⟨rest, hc⟩)]
  apply fold_of_none
  rw [bind_of_ok (peek?_cons hpass)]
  simp only [Option.bind_some, hop]
  rfl

theorem sum (h : ReadsName key r) : ReadsName key (sum r) :=
  (((h.level rfl).level rfl).level rfl).level rfl

theorem comparison (h : ReadsName key r) : ReadsName key (comparison r) := by
  rintro c line ⟨rest, hc⟩
  have hpass := Cursor.rest_pass hc
  have hop : comparisonOp c.pass = .ok (none, c.pass) := by
    rw [comparisonOp, bind_of_ok (peek?_cons hpass)]
    simp only [Option.bind_some, comparison?]
    rw [ite_accept_of_false hpass rfl, ite_accept_of_false hpass rfl]
    rfl
  rw [Grammar.comparison, bind_of_ok (lastLine_eq_ok c), bind_of_ok (h.sum c line ⟨rest, hc⟩),
    bind_of_ok (collect_of_none ?_)]
  · rfl
  · rw [bind_of_ok hop]
    rfl

theorem negation (h : ReadsName key r) (hnot : key ≠ "not") : ReadsName key (negation r) := by
  rintro c line ⟨rest, hc⟩
  have hword : isWord "not" (.name key) = false := by simpa [isWord] using hnot
  rw [Grammar.negation, bind_of_ok (collect_of_none ?_)]
  · rw [bind_of_ok (h.comparison c line ⟨rest, hc⟩)]
    rfl
  · rw [bind_of_ok (line_cons hc), ite_accept_of_false hc hword]
    rfl

theorem joined (h : ReadsName key r) (word : String) (make : Nat → Expr → Expr → Expr) :
    ReadsName key (joined word make r) := by
  rintro c line ⟨rest, hc⟩
  have hpass := Cursor.rest_pass hc
  rw [Grammar.joined, bind_of_ok (line_cons hc), bind_of_ok (h c line ⟨rest, hc⟩)]
  apply fold_of_none
  rw [ite_accept_of_false hpass rfl]
  rfl

theorem choice (h : ReadsName key r) (n : Nat) : ReadsName key (choice r n) := by
  cases n with
  | zero => exact h
  | succ n =>
    rintro c line ⟨rest, hc⟩
    have hpass := Cursor.rest_pass hc
    rw [Grammar.choice, bind_of_ok (lastLine_eq_ok c), bind_of_ok (h c line ⟨rest, hc⟩),
      bind_of_ok (fold_of_none ?_)]
    · rfl
    · dsimp only
      rw [ite_accept_of_false hpass rfl]
      rfl

theorem simpleOf (h : ReadsName key r) (hnot : key ≠ "not") (whole : Reader Expr) :
    ReadsName key (simpleOf whole r) :=
  (((h.operand _).negation hnot).joined _ _).joined _ _

/-- A whole expression that is but a name, where two levels of nesting are left. -/
theorem whole (hkey : IsName key) (n : Nat) : ReadsName key (Grammar.at (n + 2)).whole := by
  have hfree := hkey.free
  simp only [List.mem_cons, List.not_mem_nil, or_false, not_or] at hfree
  have hword : wordValue? key = none := by simp [wordValue?, hfree]
  have hsimple : ReadsName key (Grammar.at (n + 1)).simple :=
    (primary hword _).simpleOf hfree.2.2.2.2.2.2 _
  intro c line hc
  rw [Grammar.at]
  dsimp only
  rw [bind_of_ok (get_eq_ok c)]
  exact hsimple.choice _ c line hc

end ReadsName

/-! ### Statements -/

/-- The statement for a text between tags, unless it is empty. -/
def spoken (text : List Char) : List Stmt :=
  if text.isEmpty then [] else [.text (String.ofList text)]

/-- The statements of a layout that starts on a line. -/
def Layout.body (line : Nat) : Layout → List Stmt
  | .last text => spoken text
  | .slot front key rest =>
    let here := line + lineEnds front
    spoken front ++ .print here (.var here key) :: rest.body here

namespace Statement

open Reader

variable {statement : Reader Stmt} {g : Grammar} {closing : List String} {c : Cursor}

theorem part_nil (hc : c.rest = []) (hbroken : c.broken = none) :
    part statement g closing c = .ok (none, c) := by
  have hpeek : peek? c = .ok (none, c) := by simp [peek?, hc, hbroken]
  have hnext : next? c = .ok (none, c) := by
    rw [next?, bind_of_ok hpeek]
    rfl
  rw [part, bind_of_ok hnext]
  rfl

theorem part_data {s : String} {line : Nat} {rest : List Lexeme}
    (hc : c.rest = ⟨.data s, line⟩ :: rest) :
    part statement g closing c = .ok (some (.text s), c.pass) := by
  rw [part, bind_of_ok (next?_cons hc)]
  rfl

theorem part_tag {key : String} {line : Nat} {rest : List Lexeme} (hg : ReadsName key g.whole)
    (hc : c.rest = ⟨.openVariable, line⟩ :: ⟨.name key, line⟩ :: ⟨.closeVariable, line⟩ :: rest) :
    part statement g closing c =
      .ok (some (.print line (.var line key)), c.pass.pass.pass) := by
  have hname := Cursor.rest_pass hc
  have hclose := Cursor.rest_pass hname
  have hline : c.pass.last = line := by
    rw [Cursor.pass, hc]
    rfl
  rw [part, bind_of_ok (next?_cons hc)]
  dsimp only
  rw [bind_of_ok (lastLine_eq_ok _), bind_of_ok (hg _ line ⟨rest, hname⟩),
    bind_of_ok (want_of_true hclose rfl), hline]
  rfl

/-- A text between tags is found, unless it is empty. -/
theorem finds_data {text : List Char} {line : Nat} {rest : List Lexeme} {stmts : List Stmt}
    (hc : c.rest = dataToken line text ++ rest)
    (hrest : ∀ c' : Cursor, c'.rest = rest → c'.broken = c.broken →
      ∃ c'', Finds (part statement g closing) c' stmts c'') :
    ∃ c', Finds (part statement g closing) c (spoken text ++ stmts) c' := by
  cases text with
  | nil => exact hrest c hc rfl
  | cons t text =>
    have hdata : c.rest = ⟨.data (String.ofList (t :: text)), line⟩ :: rest := hc
    obtain ⟨c', h⟩ := hrest c.pass (Cursor.rest_pass hdata) rfl
    exact ⟨c', .more (part_data hdata) h⟩

/-- From the tokens of a layout its statements are found. -/
theorem finds_lexemes {layout : Layout} (hg : ∀ key ∈ layout.keys, ReadsName key g.whole)
    {line : Nat} (hc : c.rest = layout.lexemes line) (hbroken : c.broken = none) :
    ∃ c', Finds (part statement g closing) c (layout.body line) c' := by
  induction layout generalizing c line with
  | last text =>
    rw [Layout.body, ← List.append_nil (spoken text)]
    rw [Layout.lexemes, ← List.append_nil (dataToken line text)] at hc
    exact finds_data hc fun c' hrest hbroken' =>
      ⟨c', .done (part_nil hrest (hbroken'.trans hbroken))⟩
  | slot front key rest ih =>
    rw [Layout.keys, List.forall_mem_cons] at hg
    refine finds_data hc fun c' hrest hbroken' => ?_
    have hpass := Cursor.rest_pass (Cursor.rest_pass (Cursor.rest_pass hrest))
    obtain ⟨c'', h⟩ := ih hg.2 hpass (hbroken'.trans hbroken)
    exact ⟨c'', .more (part_tag hg.1 hrest) h⟩

end Statement

theorem Layout.length_body_le (layout : Layout) (line : Nat) :
    (layout.body line).length ≤ (layout.lexemes line).length := by
  have hspoken (text : List Char) (line : Nat) :
      (spoken text).length = (dataToken line text).length := by
    cases text <;> rfl
  induction layout generalizing line with
  | last text => exact Nat.le_of_eq (hspoken text line)
  | slot front key rest ih =>
    have := ih (line + lineEnds front)
    simp only [body, lexemes, List.length_append, List.length_cons, hspoken front line]
    omega

/-- The tokens of a layout are read as its statements. -/
theorem Program.ofLexed_lexemes {layout : Layout} (hnames : ∀ key ∈ layout.keys, IsName key) :
    Program.ofLexed ⟨layout.lexemes 1, none⟩ = .ok ⟨layout.body 1⟩ := by
  let start : Cursor := ⟨layout.lexemes 1, (layout.lexemes 1).length, none, 0, [], false⟩
  have hg : ∀ key ∈ layout.keys, ReadsName key (Grammar.at Statement.nestingLimit).whole :=
    fun key hkey => ReadsName.whole (hnames key hkey) 148
  obtain ⟨c', hfinds⟩ : ∃ c', Reader.Finds (Statement.part (Statement.read Statement.nestingLimit)
      (Grammar.at Statement.nestingLimit) []) start (layout.body 1) c' :=
    Statement.finds_lexemes hg rfl rfl
  have hbody : Statement.body (Statement.read Statement.nestingLimit)
      (Grammar.at Statement.nestingLimit) [] start = .ok (layout.body 1, c') :=
    Reader.collect_of_finds hfinds (layout.length_body_le 1)
  simp only [ofLexed, start] at hbody ⊢
  rw [hbody]

/-! ### Lines -/

/-- Wherever a statement is reached, its lines are settled as they are. -/
def Stmt.IsSettled (stmt : Stmt) : Prop :=
  ∀ line, (stmt.settle.run line).1 = stmt

theorem Stmt.isSettled_text (s : String) : (Stmt.text s).IsSettled := by
  intro line
  rw [settle]
  rfl

theorem Stmt.isSettled_print (line : Nat) (key : String) :
    (Stmt.print line (.var line key)).IsSettled := by
  intro here
  simp only [settle, settlePrint, Expr.settle, Expr.constant?]
  rfl

theorem Stmt.settleAll_of_isSettled {stmts : List Stmt} (h : ∀ stmt ∈ stmts, stmt.IsSettled)
    (line : Nat) : ((settleAll stmts).run line).1 = stmts := by
  induction stmts generalizing line with
  | nil => rfl
  | cons stmt stmts ih =>
    rw [List.forall_mem_cons] at h
    rw [settleAll]
    change (stmt.settle.run line).1 :: ((settleAll stmts).run (stmt.settle.run line).2).1 = _
    rw [h.1, ih h.2]

theorem Layout.isSettled_body {layout : Layout} {line : Nat} :
    ∀ stmt ∈ layout.body line, stmt.IsSettled := by
  have hspoken (text : List Char) : ∀ stmt ∈ spoken text, stmt.IsSettled := by
    cases text with
    | nil => simp [spoken]
    | cons c text =>
      intro stmt hstmt
      obtain rfl := List.mem_singleton.mp hstmt
      exact Stmt.isSettled_text _
  induction layout generalizing line with
  | last text => exact hspoken text
  | slot front key rest ih =>
    intro stmt hstmt
    rcases List.mem_append.mp hstmt with hstmt | hstmt
    · exact hspoken front stmt hstmt
    · rcases List.mem_cons.mp hstmt with rfl | hstmt
      · exact Stmt.isSettled_print _ key
      · exact ih stmt hstmt

/-- What a layout is compiled to. -/
theorem Program.compile_source {d : Delimiters} (hd : d.Drawn) {layout : Layout}
    (htexts : ∀ text ∈ layout.texts, d.Bare text) (hkeys : ∀ key ∈ layout.keys, IsName key) :
    Program.compile d (String.ofList (layout.source d)) = .ok ⟨layout.body 1⟩ := by
  have hscan : d.scan (String.ofList (layout.source d)) = ⟨layout.lexemes 1, none⟩ := by
    rw [Delimiters.scan, String.toList_ofList, Layout.scanFrom_source hd htexts hkeys]
  rw [compile, hscan, ofLexed_lexemes hkeys]
  change Except.ok (Program.settled ⟨layout.body 1⟩) = _
  rw [settled, Stmt.settleAll_of_isSettled Layout.isSettled_body]

end TemplateCheck.Template
