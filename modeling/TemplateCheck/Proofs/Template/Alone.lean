import TemplateCheck.Proofs.Template.Exec

/-!
# Templates that stand alone

A template stands alone if it uses no other one: it includes, imports and extends none. The machine
keeps statements of the template that it renders: the bodies of routines, and what recursive loops
do. While a template that stands alone is rendered, all of these stand alone too.

* `Stmt.standsAlone`, `Program.standsAlone` — no statement, however deep, uses another template;
* `Machine.StandsAlone` — all statements that the machine keeps stand alone;
* `Run.Keeps` — computations that lead from such a machine to such a machine;
* `Run.keeps_filter`, `Run.keeps_callFunction`, `Run.keeps_newRoutine` and others — those that run
  no other part of the template.
-/

namespace TemplateCheck.Template

/-! ### Statements -/

mutual

/-- Does a statement use no other template? -/
def Stmt.standsAlone : Stmt → Bool
  | .loop _ _ _ _ _ body others => Stmt.standAlone body && Stmt.standAlone others
  | .choose _ _ yes no => Stmt.standAlone yes && Stmt.standAlone no
  | .bind _ _ body => Stmt.standAlone body
  | .capture _ _ body => Stmt.standAlone body
  | .filter _ _ body => Stmt.standAlone body
  | .escape _ _ body => Stmt.standAlone body
  | .block _ _ body => Stmt.standAlone body
  | .routine _ _ _ _ body => Stmt.standAlone body
  | .callWith _ _ _ _ _ _ _ body => Stmt.standAlone body
  | .extend _ _ => false
  | .include_ _ _ _ => false
  | .import_ _ _ _ => false
  | .importNames _ _ _ => false
  | _ => true

/-- Do statements use no other template? -/
def Stmt.standAlone : List Stmt → Bool
  | [] => true
  | s :: ss => Stmt.standsAlone s && Stmt.standAlone ss

end

/-- Does a template use no other one? -/
def Program.standsAlone (p : Program) : Bool := Stmt.standAlone p.body

mutual

/-- The blocks in a statement that stands alone stand alone. -/
theorem Stmt.standAlone_of_mem_blocks {block : String × List Stmt} :
    ∀ s : Stmt, s.standsAlone → block ∈ s.blocks → Stmt.standAlone block.2
  | .block _ name body, hs, hblock => by
    rw [blocks, List.mem_cons] at hblock
    rcases hblock with rfl | hblock
    · exact hs
    · exact standAlone_of_mem_blocksIn body hs hblock
  | .loop _ _ _ _ _ body others, hs, hblock => by
    rw [standsAlone, Bool.and_eq_true] at hs
    rw [blocks, List.mem_append] at hblock
    exact hblock.elim (standAlone_of_mem_blocksIn body hs.1)
      (standAlone_of_mem_blocksIn others hs.2)
  | .choose _ _ yes no, hs, hblock => by
    rw [standsAlone, Bool.and_eq_true] at hs
    rw [blocks, List.mem_append] at hblock
    exact hblock.elim (standAlone_of_mem_blocksIn yes hs.1) (standAlone_of_mem_blocksIn no hs.2)
  | .bind _ _ body, hs, hblock => standAlone_of_mem_blocksIn body hs hblock
  | .capture _ _ body, hs, hblock => standAlone_of_mem_blocksIn body hs hblock
  | .filter _ _ body, hs, hblock => standAlone_of_mem_blocksIn body hs hblock
  | .escape _ _ body, hs, hblock => standAlone_of_mem_blocksIn body hs hblock
  | .text _, _, hblock | .print _ _, _, hblock | .set _ _, _, hblock | .required _, _, hblock
  | .extend _ _, _, hblock | .include_ _ _ _, _, hblock | .import_ _ _ _, _, hblock
  | .importNames _ _ _, _, hblock | .routine _ _ _ _ _, _, hblock
  | .callWith _ _ _ _ _ _ _ _, _, hblock | .run _, _, hblock => absurd hblock List.not_mem_nil

/-- The blocks in statements that stand alone stand alone. -/
theorem Stmt.standAlone_of_mem_blocksIn {block : String × List Stmt} :
    ∀ ss : List Stmt, Stmt.standAlone ss → block ∈ Stmt.blocksIn ss → Stmt.standAlone block.2
  | [], _, hblock => absurd hblock List.not_mem_nil
  | s :: ss, hs, hblock => by
    rw [standAlone, Bool.and_eq_true] at hs
    rw [blocksIn, List.mem_append] at hblock
    exact hblock.elim (standAlone_of_mem_blocks s hs.1) (standAlone_of_mem_blocksIn ss hs.2)

end

/-! ### Machines -/

/-- The statements that a machine keeps use no other template. -/
structure Machine.StandsAlone (m : Machine) : Prop where
  routines : ∀ (id : Nat) (r : Routine), m.routines[id]? = some r → Stmt.standAlone r.body
  loops : ∀ (id : Nat) (l : LoopState) (again : LoopBody),
    m.loops[id]? = some l → l.again = some again → Stmt.standAlone again.body

theorem Machine.standsAlone_start (s : Setting) : (Machine.start s).StandsAlone where
  routines := by simp [Machine.start]
  loops := by simp [Machine.start]

/-- All that counts is what the machine keeps. -/
theorem Machine.StandsAlone.congr {m m' : Machine} (h : m.StandsAlone)
    (hroutines : m'.routines = m.routines) (hloops : m'.loops = m.loops) : m'.StandsAlone where
  routines := hroutines ▸ h.routines
  loops := hloops ▸ h.loops

theorem Machine.StandsAlone.of_frames {m : Machine} (h : m.StandsAlone) (frames : List Frame) :
    { m with frames }.StandsAlone :=
  h.congr rfl rfl

theorem Machine.StandsAlone.of_escaping {m : Machine} (h : m.StandsAlone) (escaping : Bool) :
    { m with escaping }.StandsAlone :=
  h.congr rfl rfl

theorem Machine.StandsAlone.push_routine {m : Machine} (h : m.StandsAlone) {r : Routine}
    (hr : Stmt.standAlone r.body) : { m with routines := m.routines.push r }.StandsAlone where
  routines := by
    intro id r' hr'
    rw [Array.getElem?_push] at hr'
    split at hr'
    · rw [← Option.some.inj hr']
      exact hr
    · exact h.routines id r' hr'
  loops := h.loops

theorem Machine.StandsAlone.push_loop {m : Machine} (h : m.StandsAlone) {l : LoopState}
    (hl : ∀ again, l.again = some again → Stmt.standAlone again.body) :
    { m with loops := m.loops.push l }.StandsAlone where
  routines := h.routines
  loops := by
    intro id l' again hl' hagain
    rw [Array.getElem?_push] at hl'
    split at hl'
    · rw [← Option.some.inj hl'] at hagain
      exact hl again hagain
    · exact h.loops id l' again hl' hagain

/-- A loop may change, as long as it does the same. -/
theorem Machine.StandsAlone.modify_loop {m : Machine} (h : m.StandsAlone) (id : Nat)
    {f : LoopState → LoopState} (hf : ∀ l, (f l).again = l.again) :
    { m with loops := m.loops.modify id f }.StandsAlone where
  routines := h.routines
  loops := by
    intro id' l' again hl' hagain
    rw [Array.getElem?_modify] at hl'
    split at hl'
    · obtain ⟨l, hl, rfl⟩ := Option.map_eq_some_iff.mp hl'
      exact h.loops id' l again hl (hf l ▸ hagain)
    · exact h.loops id' l' again hl' hagain

/-! ### Computations -/

namespace Run

variable {α β : Type}

/-- From a machine that stands alone the computation leads to one that does. -/
def Keeps (run : Run α) : Prop :=
  ∀ ⦃m : Machine⦄, m.StandsAlone → ∀ policy a m', run m policy = .ok (a, m') → m'.StandsAlone

@[grind .]
theorem Keeps.pure (a : α) : Keeps (pure a) := by
  rintro m hm policy _ _ ⟨⟩
  exact hm

@[grind .]
theorem Keeps.fail (line : Nat) (kind : FaultKind) : Keeps (fail line kind : Run α) := by
  rintro m hm policy _ _ ⟨⟩

@[grind .]
theorem Keeps.bind {run : Run α} {f : α → Run β} (hrun : Keeps run) (hf : ∀ a, Keeps (f a)) :
    Keeps (run >>= f) := by
  intro m hm policy b m' h
  obtain ⟨a, m₁, ha, hb⟩ := bind_eq_ok_iff.mp h
  exact hf a (hrun hm policy a m₁ ha) policy b m' hb

@[grind .]
theorem Keeps.get : Keeps (get : Run Machine) := by
  rintro m hm policy _ _ ⟨⟩
  exact hm

/-- What is done with the machine may rely on its standing alone. -/
theorem Keeps.get_bind {f : Machine → Run α} (hf : ∀ m, m.StandsAlone → Keeps (f m)) :
    Keeps (MonadState.get >>= f) :=
  fun m hm => hf m hm hm

theorem Keeps.set {m : Machine} (hm : m.StandsAlone) : Keeps (set m : Run PUnit) := by
  rintro _ - policy _ _ ⟨⟩
  exact hm

theorem Keeps.modify {f : Machine → Machine} (hf : ∀ m, m.StandsAlone → (f m).StandsAlone) :
    Keeps (modify f : Run PUnit) := by
  rintro m hm policy _ _ ⟨⟩
  exact hf m hm

@[grind .]
theorem Keeps.use (line : Nat) (u : Use α) : Keeps (use line u) := by
  intro m hm policy a m' h
  rw [Run.use] at h
  split at h
  · cases h
    exact hm
  · cases h

/-! ### Names and frames -/

@[grind .]
theorem keeps_top : Keeps top := by grind [top]

@[grind .]
theorem keeps_store (name : String) (v : Value) : Keeps (store name v) := by
  refine .modify fun m hm => ?_
  split
  · exact hm
  · dsimp only
    split
    · exact hm.congr rfl rfl
    · exact hm.congr rfl rfl

theorem keeps_closure : Keeps closure := by
  refine .get_bind fun m hm => ?_
  split
  · exact .pure 0
  · split
    · exact .pure _
    · exact .bind (.set (hm.congr rfl rfl)) fun _ => .pure _

theorem keeps_enclose (s : Setting) (id : Nat) (names : List String) :
    Keeps (enclose s id names) :=
  .modify fun _ hm => hm.congr rfl rfl

@[grind .]
theorem keeps_currentLoop : Keeps currentLoop := by grind [currentLoop]

/-! ### Values and arguments -/

theorem keeps_part (line : Nat) (v key : Value) : Keeps (part line v key) := by
  unfold part
  split <;> grind

@[grind .]
theorem keeps_captured (text : String) : Keeps (captured text) := by grind [captured]

@[grind .]
theorem keeps_places (line : Nat) (given : List (ArgKind × Value)) : Keeps (places line given) := by
  induction given with
  | nil => exact .pure []
  | cons arg rest ih =>
    obtain ⟨kind, v⟩ := arg
    unfold places
    cases kind <;> grind

@[grind .]
theorem keeps_keywords (line : Nat) (given : List (ArgKind × Value)) :
    Keeps (keywords line given) := by
  induction given with
  | nil => exact .pure []
  | cons arg rest ih =>
    obtain ⟨kind, v⟩ := arg
    unfold keywords
    cases kind <;> grind

theorem keeps_arguments (line : Nat) (given : List (ArgKind × Value))
    (more : List (Value × Value)) : Keeps (arguments line given more) := by
  unfold arguments
  grind

theorem keeps_filter (line : Nat) (name : String) (args : List Value) :
    Keeps (filter line name args) := by
  unfold filter
  grind

theorem keeps_test (line : Nat) (name : String) (made : Bool) (args : List Value) :
    Keeps (test line name made args) := by
  unfold test
  grind

@[grind .]
theorem keeps_condition (line : Nat) (v : Value) : Keeps (condition line v) := by
  unfold condition
  grind

theorem keeps_comparisons (line : Nat) (first : Value) (ops : List Comparison)
    (vs : List Value) : Keeps (comparisons line first ops vs) := by
  induction ops generalizing first vs with
  | nil => cases vs <;> exact .pure true
  | cons op ops ih =>
    cases vs with
    | nil => exact .pure true
    | cons v vs =>
      rw [comparisons]
      grind

theorem keeps_print (line : Nat) (v : Value) : Keeps (print line v) := by grind [print]

theorem keeps_escapingOf (line : Nat) (v : Value) : Keeps (escapingOf line v) := by
  unfold escapingOf
  grind

/-! ### Functions, loops and routines -/

theorem keeps_newRecord (line : Nat) (args : List Value) : Keeps (newRecord line args) := by
  refine .bind (.use line _) fun entries => .get_bind fun m hm => ?_
  exact .bind (.set (hm.congr rfl rfl)) fun _ => .pure _

theorem keeps_callFunction (s : Setting) (line : Nat) (name : String) (args : List Value) :
    Keeps (callFunction s line name args) := by
  refine .bind .get fun m => ?_
  split
  · exact .use line _
  · split
    · exact .pure _
    · exact .use line _
  · split
    · exact keeps_newRecord line _
    · exact .fail line _

@[grind .]
theorem keeps_loopChanged (id : Nat) (args : List Value) : Keeps (loopChanged id args) := by
  refine .get_bind fun m hm => ?_
  extract_lets before same
  split
  · exact .pure _
  · exact .bind (.set (hm.modify_loop id fun _ => rfl)) fun _ => .pure _

@[grind .]
theorem keeps_loopCycle (id : Nat) (args : List Value) : Keeps (loopCycle id args) := by
  grind [loopCycle]

theorem keeps_loopDepth : Keeps loopDepth := by grind [loopDepth]

/-- A new routine stands alone if its body does. -/
theorem keeps_newRoutine (s : Setting) (name : String) (params : List String)
    (defaults : List Expr) {body : List Stmt} (hbody : Stmt.standAlone body) :
    Keeps (newRoutine s name params defaults body) := by
  unfold newRoutine
  -- What is left to do once the names that the routine uses are kept.
  extract_lets free kept push
  have hpush (u : Unit) : Keeps (push u) := by
    refine .bind keeps_top fun frame => .get_bind fun m hm => ?_
    exact .bind (.set (hm.push_routine hbody)) fun _ => .pure _
  split
  · exact hpush ()
  · refine .bind keeps_closure fun id => ?_
    exact .bind (keeps_enclose s id kept) hpush

end Run

end TemplateCheck.Template
