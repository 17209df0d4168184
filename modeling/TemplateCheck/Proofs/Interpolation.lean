import TemplateCheck.Parser
import TemplateCheck.Proofs.KeyMap
import TemplateCheck.Proofs.Template.Rendering

/-!
# Templates of texts and names

A template that only puts texts and names next to each other means what it looks like: the texts
stay, and each name gives way to what the model has for it. That holds for marks of all sorts and
for every way to escape and to treat missing values.

* `Template.Piece`, `Template.Piece.Fits` — the pieces of a template, and when they keep apart;
* `Template.Layout.ofPieces`, `Template.Layout.outcome_append` — pieces as a layout, and its text;
* `Template.Program.compile_pieces` — the statements that they are compiled to;
* `ParserSettings.marks` — the marks of a parser with some settings;
* `Template.Piece.rendered` — what a piece is rendered to;
* `Template.render_of_present`, `Template.render_of_absent` — the text of a template made of pieces;
* `Parser.pieces_render` — what a parser makes of pieces.
-/

namespace TemplateCheck

namespace Template

/-! ### Pieces -/

/-- A piece of a template: some text, or a name in a tag. -/
inductive Piece where
  | text (cs : List Char)
  | name (key : String)

namespace Piece

/-- A piece as it is written. -/
def source (d : Delimiters) : Piece → List Char
  | .text cs => cs
  | .name key => d.tag key

/-- No tag can begin in a text, and a name is not that of a function. -/
def Fits (d : Delimiters) (functions : Functions) : Piece → Prop
  | .text cs => d.Bare cs
  | .name key => IsName key ∧ Function.isKnown functions key = false

end Piece

namespace Layout

/-- A layout behind a text. -/
def prepend (cs : List Char) : Layout → Layout
  | .last text => .last (cs ++ text)
  | .slot front key rest => .slot (cs ++ front) key rest

/-- The layout of pieces: texts next to each other are one. -/
def ofPieces : List Piece → Layout
  | [] => .last []
  | .text cs :: pieces => (ofPieces pieces).prepend cs
  | .name key :: pieces => .slot [] key (ofPieces pieces)

theorem source_prepend (d : Delimiters) (cs : List Char) (layout : Layout) :
    (layout.prepend cs).source d = cs ++ layout.source d := by
  cases layout with
  | last text => rfl
  | slot front key rest => simp [prepend, source]

theorem source_ofPieces (d : Delimiters) (pieces : List Piece) :
    (ofPieces pieces).source d = pieces.flatMap (Piece.source d) := by
  induction pieces with
  | nil => rfl
  | cons piece pieces ih =>
    cases piece with
    | text cs => rw [ofPieces, source_prepend, ih, List.flatMap_cons, Piece.source]
    | name key => rw [ofPieces, source, ih, List.flatMap_cons, Piece.source, List.nil_append]

theorem texts_ofPieces {d : Delimiters} {pieces : List Piece}
    (h : ∀ cs, .text cs ∈ pieces → d.Bare cs) : ∀ text ∈ (ofPieces pieces).texts, d.Bare text := by
  have hempty : d.Bare [] := ⟨List.not_mem_nil, fun _ _ => List.not_mem_nil⟩
  induction pieces with
  | nil => simpa [ofPieces, texts] using hempty
  | cons piece pieces ih =>
    have hrest := ih fun cs hcs => h cs (List.mem_cons_of_mem _ hcs)
    cases piece with
    | text cs =>
      have hcs := h cs List.mem_cons_self
      have happend {text : List Char} (htext : d.Bare text) : d.Bare (cs ++ text) := by
        constructor
        · simp [hcs.brace, htext.brace]
        · intro c hc
          simp [hcs.first c hc, htext.first c hc]
      rw [ofPieces]
      cases hlayout : ofPieces pieces with
      | last text =>
        rw [hlayout, texts, List.forall_mem_singleton] at hrest
        simpa [prepend, texts] using happend hrest
      | slot front key rest =>
        rw [hlayout, texts, List.forall_mem_cons] at hrest
        simpa only [prepend, texts, List.forall_mem_cons] using ⟨happend hrest.1, hrest.2⟩
    | name key =>
      simpa only [ofPieces, texts, List.forall_mem_cons] using ⟨hempty, hrest⟩

theorem mem_keys_ofPieces {pieces : List Piece} {key : String} :
    key ∈ (ofPieces pieces).keys ↔ .name key ∈ pieces := by
  induction pieces with
  | nil => simp [ofPieces, keys]
  | cons piece pieces ih =>
    cases piece with
    | text cs =>
      have hkeys : ((ofPieces pieces).prepend cs).keys = (ofPieces pieces).keys := by
        cases ofPieces pieces <;> rfl
      simp [ofPieces, hkeys, ih]
    | name name => simp [ofPieces, keys, ih]

end Layout

/-- Pieces that keep apart are compiled to the statements of their layout. -/
theorem Program.compile_pieces {d : Delimiters} (hd : d.Drawn) {functions : Functions}
    {pieces : List Piece} (hfits : ∀ piece ∈ pieces, piece.Fits d functions) :
    Program.compile d (String.ofList (pieces.flatMap (Piece.source d))) =
      .ok ⟨(Layout.ofPieces pieces).body 1⟩ := by
  have htexts : ∀ cs, .text cs ∈ pieces → d.Bare cs := fun cs hcs => hfits _ hcs
  have hnames : ∀ key ∈ (Layout.ofPieces pieces).keys, IsName key := by
    intro key hkey
    have hname : IsName key ∧ _ := hfits _ (Layout.mem_keys_ofPieces.mp hkey)
    exact hname.1
  rw [← Layout.source_ofPieces]
  exact Program.compile_source hd (Layout.texts_ofPieces htexts) hnames

/-! ### The text of pieces -/

section

variable {value : String → Except FaultKind (List Char)}

theorem Layout.outcome_prepend (cs : List Char) (layout : Layout) (line : Nat) :
    (layout.prepend cs).outcome value line =
      (layout.outcome value (line + Token.lineEnds cs)).map (cs ++ ·) := by
  cases layout with
  | last text => rfl
  | slot front key rest =>
    rw [prepend, outcome, outcome, Token.lineEnds_append, ← Nat.add_assoc]
    cases value key with
    | error kind => rfl
    | ok inserted =>
      cases rest.outcome value (line + Token.lineEnds cs + Token.lineEnds front) with
      | error fault => rfl
      | ok text => simp [Except.map]

/-- Pieces whose names stand for something are rendered, and what is behind them follows. -/
theorem Layout.outcome_append {d : Delimiters} (hd : d.Drawn) {rendered : Piece → List Char}
    (htext : ∀ cs, rendered (.text cs) = cs) {front : List Piece}
    (hnames : ∀ key, .name key ∈ front → IsName key ∧ value key = .ok (rendered (.name key)))
    (back : List Piece) (line : Nat) :
    (ofPieces (front ++ back)).outcome value line =
      ((ofPieces back).outcome value (line + Token.lineEnds (front.flatMap (Piece.source d)))).map
        (front.flatMap rendered ++ ·) := by
  have hmap {ε : Type} (cs ds : List Char) (x : Except ε (List Char)) :
      (x.map (cs ++ ·)).map (ds ++ ·) = x.map ((ds ++ cs) ++ ·) := by
    cases x <;> simp [Except.map]
  induction front generalizing line with
  | nil =>
    rw [List.nil_append, List.flatMap_nil, List.flatMap_nil]
    change _ = ((ofPieces back).outcome value line).map id
    cases (ofPieces back).outcome value line <;> rfl
  | cons piece front ih =>
    have hrest := ih fun key hkey => hnames key (List.mem_cons_of_mem _ hkey)
    rw [List.cons_append, List.flatMap_cons, List.flatMap_cons, Token.lineEnds_append,
      ← Nat.add_assoc]
    cases piece with
    | text cs => rw [ofPieces, outcome_prepend, hrest, hmap, htext, Piece.source]
    | name key =>
      obtain ⟨hkey, hvalue⟩ := hnames key List.mem_cons_self
      have hline : line + Token.lineEnds [] = line := rfl
      rw [ofPieces, outcome, hvalue, Piece.source, hkey.lineEnds_tag hd, hline, Nat.add_zero]
      dsimp only
      rw [hrest]
      exact hmap _ _ _

end

end Template

/-! ### What pieces are rendered to -/

/-- What a text of a model is printed as. -/
def Engine.shown (engine : Engine) (s : String) : List Char :=
  match engine with
  | .text => s.toList
  | .html => s.toList.flatMap Template.escapeChar

/-- What a piece is rendered to: a text to itself, and a name to what the text is printed as that
the model has under it, or else to nothing. -/
def Template.Piece.rendered (engine : Engine) (model : Model) : Template.Piece → List Char
  | .text cs => cs
  | .name key =>
    match model.get? key with
    | some (.str s) => engine.shown s
    | _ => []

/-! ### Marks -/

/-- The mark on one side: what is set, if it is not empty, or else the usual one. -/
def markOr (usual : List Char) : Option String → List Char
  | none => usual
  | some s => if s = "" then usual else s.toList

/-- The marks of a parser with the settings. -/
def ParserSettings.marks (c : ParserSettings) : Template.Delimiters where
  left := markOr Template.Delimiters.standard.left c.leftDelim
  right := markOr Template.Delimiters.standard.right c.rightDelim

theorem ParserSettings.delimiters_eq_marks {c : ParserSettings} (h : c.marks.Drawn) :
    c.delimiters = .ok c.marks := by
  have hmark (usual : List Char) (side : Option String) :
      ((filled side).map String.toList).getD usual = markOr usual side := by
    cases side with
    | none => rfl
    | some s =>
      by_cases hs : s = ""
      · simp [filled, Option.filter, markOr, hs]
      · simp [filled, Option.filter, markOr, hs]
  have hleft : ¬ (c.marks.left = Template.Token.blockStart ∨
      c.marks.left = Template.Token.commentStart) := by
    rcases h.left with hl | ⟨-, hall⟩
    · rw [hl]
      decide
    · rintro (hl | hl) <;> exact absurd (hall '\x7b' (hl ▸ List.mem_cons_self)) (by decide)
  rw [delimiters, hmark, hmark]
  exact if_neg hleft

namespace Parser

theorem ofSettings_eq_ok {c : ParserSettings} {k : MissingKey}
    (hk : MissingKey.resolve c.missingKey = .ok k) (hmarks : c.marks.Drawn) :
    ofSettings c = .ok ⟨c.engine, k, c.marks, filled c.mediaType, c.functions, c.describe⟩ := by
  rw [ofSettings, hk, c.delimiters_eq_marks hmarks]
  rfl

end Parser

/-! ### Rendering -/

namespace Template

/-- What a name stands for in a model: a text, or else nothing, unless the policy forbids to use
it. -/
def valueOf (engine : Engine) (policy : Policy) (model : Model) (key : String) :
    Except FaultKind (List Char) :=
  match model.get? key with
  | some (.str s) => .ok (engine.shown s)
  | _ => if policy = .strict then .error .undefinedValue else .ok []

theorem valueOf_eq_ok (engine : Engine) {policy : Policy} {model : Model} {key : String}
    (hmodel : model.get? key = none ∨ ∃ s, model.get? key = some (.str s))
    (hallowed : policy ≠ .strict ∨ model.get? key ≠ none) :
    valueOf engine policy model key = .ok (Piece.rendered engine model (.name key)) := by
  rcases hmodel with hnone | ⟨s, hsome⟩
  · have hpolicy : policy ≠ .strict := hallowed.resolve_right fun h => h hnone
    rw [valueOf, Piece.rendered, hnone]
    exact if_neg hpolicy
  · rw [valueOf, Piece.rendered, hsome]

theorem printsAs_valueOf {t : Template} {engine : Engine}
    (hengine : t.escaping = decide (engine = .html)) {model : Model} {key : String}
    (hmodel : model.get? key = none ∨ ∃ s, model.get? key = some (.str s))
    (hfunctions : Function.isKnown t.functions key = false) (calls : Calls) :
    PrintsAs (t.setting model) calls (Machine.start (t.setting model)) t.policy
      (valueOf engine t.policy model) key := by
  have hget : (t.setting model).model.get? key = (model.get? key).map Value.ofJson :=
    KeyMap.get?_ofList_map model Value.ofJson key
  intro line
  rcases hmodel with hnone | ⟨v, hsome⟩
  · rw [hnone, Option.map_none] at hget
    rw [exec_print_of_none hget hfunctions, valueOf, hnone]
    by_cases hpolicy : t.policy = .strict
    · simp [hpolicy]
    · simp [hpolicy]
  · rw [hsome, Option.map_some, Value.ofJson] at hget
    have hescaping : (t.setting model).escaping = decide (engine = .html) := hengine
    rw [exec_print_of_some hget hfunctions, valueOf, hsome, hescaping]
    cases engine with
    | text => simp [Engine.shown]
    | html => simp [Engine.shown, escapeHtml]

section

variable {t : Template} {layout : Layout} {model : Model}
  {value : String → Except FaultKind (List Char)} (hprogram : t.program.body = layout.body 1)
  (hvalue : ∀ key ∈ layout.keys, ∀ calls, PrintsAs (t.setting model) calls
    (Machine.start (t.setting model)) t.policy value key)

include hprogram hvalue

theorem execAll_setting (calls : Calls) :
    Stmt.execAll (t.setting model) calls (t.setting model).program.body
        (Machine.start (t.setting model)) t.policy =
      (layout.outcome value 1).map fun text =>
        (String.ofList text, Machine.start (t.setting model)) := by
  change Stmt.execAll _ _ t.program.body _ _ = _
  rw [hprogram, Layout.execAll_body fun key hkey => hvalue key hkey calls]

theorem render_of_outcome_ok {text : List Char} (h : layout.outcome value 1 = .ok text) :
    t.render model = .ok (String.ofList text) := by
  rw [render, Setting.render]
  simp only [execAll_setting hprogram hvalue, h]
  rfl

theorem render_of_outcome_error {kind : FaultKind} {line : Nat}
    (h : layout.outcome value 1 = .error (kind, line)) :
    t.render model = .error (t.fault kind line) := by
  rw [render, Setting.render]
  simp only [execAll_setting hprogram hvalue, h]
  rfl

end

/-- Where all names stand for something, the pieces are rendered one by one. -/
theorem outcome_of_present {d : Delimiters} (hd : d.Drawn) {engine : Engine} {policy : Policy}
    {model : Model} {pieces : List Piece}
    (hnames : ∀ key, .name key ∈ pieces → IsName key ∧
      valueOf engine policy model key = .ok (Piece.rendered engine model (.name key))) :
    (Layout.ofPieces pieces).outcome (valueOf engine policy model) 1 =
      .ok (pieces.flatMap (Piece.rendered engine model)) := by
  have happend := Layout.outcome_append hd (fun _ => rfl) hnames [] 1
  rw [List.append_nil] at happend
  rw [happend]
  simp [Layout.ofPieces, Layout.outcome, Except.map]

/-- The first name that stands for nothing is the one that a rendering fails at. -/
theorem outcome_of_absent {d : Delimiters} (hd : d.Drawn) {engine : Engine}
    {model : Model} {front back : List Piece} {key : String}
    (hfront : ∀ other, .name other ∈ front → IsName other ∧
      valueOf engine .strict model other = .ok (Piece.rendered engine model (.name other)))
    (hkey : model.get? key = none) :
    (Layout.ofPieces (front ++ .name key :: back)).outcome (valueOf engine .strict model) 1 =
      .error (.undefinedValue, 1 + Token.lineEnds (front.flatMap (Piece.source d))) := by
  have hvalue : valueOf engine .strict model key = .error .undefinedValue := by
    rw [valueOf, hkey]
    rfl
  rw [Layout.outcome_append hd (fun _ => rfl) hfront, Layout.ofPieces, Layout.outcome, hvalue]
  rfl

theorem exists_first_absent {model : Model} {pieces : List Piece} {missing : String}
    (hmem : .name missing ∈ pieces) (hmissing : model.get? missing = none) :
    ∃ front key back, pieces = front ++ .name key :: back ∧ model.get? key = none ∧
      ∀ other, .name other ∈ front → model.get? other ≠ none := by
  let isAbsent : Piece → Bool
    | .text _ => false
    | .name key => (model.get? key).isNone
  have hfound : (pieces.find? isAbsent).isSome :=
    List.find?_isSome.mpr ⟨.name missing, hmem, by simp [isAbsent, hmissing]⟩
  obtain ⟨piece, hpiece⟩ := Option.isSome_iff_exists.mp hfound
  obtain ⟨habsent, front, back, rfl, hfront⟩ := List.find?_eq_some_iff_append.mp hpiece
  cases piece with
  | text cs => cases habsent
  | name key =>
    refine ⟨front, key, back, rfl, Option.isNone_iff_eq_none.mp habsent, fun other hother h => ?_⟩
    have := hfront _ hother
    simp [isAbsent, h] at this

section

variable {t : Template} {engine : Engine} {d : Delimiters} {pieces : List Piece} {model : Model}
  (hd : d.Drawn) (hprogram : t.program.body = (Layout.ofPieces pieces).body 1)
  (hengine : t.escaping = decide (engine = .html))
  (hfits : ∀ piece ∈ pieces, piece.Fits d t.functions)
  (hmodel : ∀ key, .name key ∈ pieces →
    model.get? key = none ∨ ∃ s, model.get? key = some (.str s))

include hengine hfits hmodel in
theorem printsAs_pieces : ∀ key ∈ (Layout.ofPieces pieces).keys, ∀ calls,
    PrintsAs (t.setting model) calls (Machine.start (t.setting model)) t.policy
      (valueOf engine t.policy model) key := by
  intro key hkey
  have hmem := Layout.mem_keys_ofPieces.mp hkey
  have hname : IsName key ∧ Function.isKnown t.functions key = false := hfits _ hmem
  exact printsAs_valueOf hengine (hmodel key hmem) hname.2

include hd hprogram hengine hfits hmodel

/-- A template made of pieces is rendered to what these are, if all names may be used. -/
theorem render_of_present
    (hallowed : t.policy ≠ .strict ∨ ∀ key, .name key ∈ pieces → model.get? key ≠ none) :
    t.render model = .ok (String.ofList (pieces.flatMap (Piece.rendered engine model))) := by
  have hvalue := printsAs_pieces hengine hfits hmodel
  have hnames : ∀ key, .name key ∈ pieces → IsName key ∧
      valueOf engine t.policy model key = .ok (Piece.rendered engine model (.name key)) := by
    intro key hkey
    have hname : IsName key ∧ _ := hfits _ hkey
    exact ⟨hname.1, valueOf_eq_ok engine (hmodel key hkey) (hallowed.imp_right fun h => h key hkey)⟩
  exact render_of_outcome_ok hprogram hvalue (outcome_of_present hd hnames)

/-- Under the policy that forbids it, a template made of pieces fails at the first name that the
model does not have. -/
theorem render_of_absent (hpolicy : t.policy = .strict) {missing : String}
    (hmem : .name missing ∈ pieces) (hmissing : model.get? missing = none) :
    ∃ front key back, pieces = front ++ .name key :: back ∧ model.get? key = none ∧
      (∀ other, .name other ∈ front → model.get? other ≠ none) ∧
      t.render model = .error
        (t.fault .undefinedValue (1 + Token.lineEnds (front.flatMap (Piece.source d)))) := by
  have hvalue := printsAs_pieces hengine hfits hmodel
  obtain ⟨front, key, back, rfl, hkey, hfront⟩ := exists_first_absent hmem hmissing
  have hnames : ∀ other, .name other ∈ front → IsName other ∧
      valueOf engine .strict model other = .ok (Piece.rendered engine model (.name other)) := by
    intro other hother
    have hmem := List.mem_append_left (.name key :: back) hother
    have hname : IsName other ∧ _ := hfits _ hmem
    exact ⟨hname.1, valueOf_eq_ok engine (hmodel other hmem) (.inr (hfront other hother))⟩
  have houtcome : (Layout.ofPieces (front ++ .name key :: back)).outcome
      (valueOf engine .strict model) 1 = _ := outcome_of_absent hd hnames hkey
  rw [← hpolicy] at houtcome
  exact ⟨front, key, back, rfl, hkey, hfront, render_of_outcome_error hprogram hvalue houtcome⟩

end

end Template

/-! ### Parsers -/

namespace Parser

open Template

/-- However the marks are drawn, a parser reads pieces as what they are: it renders texts to
themselves, line ends included, and names to the texts that the model has under them, escaped one
character after the other if the parser is set so. A name that the model does not have is rendered
to nothing; where that is an error, the rendering fails at the first such name, on its line. -/
theorem pieces_render (c : ParserSettings) {k : MissingKey}
    (hk : MissingKey.resolve c.missingKey = .ok k) (hmarks : c.marks.Drawn) :
    ∃ p, ofSettings c = .ok p ∧ ∀ (name : String) (pieces : List Piece),
      (∀ piece ∈ pieces, piece.Fits c.marks c.functions) →
      ∃ t, p.parse name (String.ofList (pieces.flatMap (Piece.source c.marks))) = .ok t ∧
        ∀ model : Model,
          (∀ key, .name key ∈ pieces →
            model.get? key = none ∨ ∃ s, model.get? key = some (.str s)) →
          (k ≠ .error ∨ (∀ key, .name key ∈ pieces → model.get? key ≠ none) →
            t.render model = .ok (String.ofList (pieces.flatMap (Piece.rendered c.engine model)))) ∧
          (k = .error → ∀ missing, .name missing ∈ pieces → model.get? missing = none →
            ∃ front key back, pieces = front ++ .name key :: back ∧ model.get? key = none ∧
              (∀ other, .name other ∈ front → model.get? other ≠ none) ∧
              t.render model = .error (.templateRender name (.template ⟨.undefinedValue, name,
                1 + Token.lineEnds (front.flatMap (Piece.source c.marks))⟩))) := by
  refine ⟨_, ofSettings_eq_ok hk hmarks, fun name pieces hfits => ?_⟩
  let t : Template :=
    { name, configuredType := filled c.mediaType, program := ⟨(Layout.ofPieces pieces).body 1⟩
      functions := c.functions, describe := c.describe, escaping := c.engine = .html
      policy := k.policy }
  have hstrict : t.policy = .strict ↔ k = .error := by cases k <;> simp [t, MissingKey.policy]
  refine ⟨t, by rw [parse, Program.compile_pieces hmarks hfits], fun model hmodel => ⟨?_, ?_⟩⟩
  · intro hallowed
    exact render_of_present hmarks rfl rfl hfits hmodel (hallowed.imp_left (mt hstrict.mp))
  · intro herror missing hmem hmissing
    exact render_of_absent hmarks rfl rfl hfits hmodel (hstrict.mpr herror) hmem hmissing

/-- Settings with a mark of their own on the left side only. -/
def bracketed (missingKey : Option String) : ParserSettings :=
  { ParserSettings.default with
    engine := .html, missingKey, leftDelim := some "[[", rightDelim := some "" }

theorem drawn_bracketed (missingKey : Option String) : (bracketed missingKey).marks.Drawn where
  left := .inr (by
    change "[[".toList ≠ [] ∧ ∀ c ∈ "[[".toList, c ∈ ['[', ']', '<', '>', '@', '$']
    simp)
  right := .inl rfl

/-- The template `<[[ x }}\n[[ y_1 }}`. -/
def greeting : List Piece :=
  [.text ['<'], .name "x", .text ['\n'], .name "y_1"]

theorem fits_greeting (missingKey : Option String) :
    ∀ piece ∈ greeting,
      piece.Fits (bracketed missingKey).marks (bracketed missingKey).functions := by
  have hx : IsName "x" := ⟨⟨'x', [], by simp⟩, by decide⟩
  have hy : IsName "y_1" := ⟨⟨'y', ['_', '1'], by simp⟩, by decide⟩
  have hbare (c : Char) (hc : c ∉ ['\x7b', '[']) : (bracketed missingKey).marks.Bare [c] := by
    have hfirst : (bracketed missingKey).marks.left.head? = some '[' := rfl
    constructor
    · intro h
      exact hc (List.mem_singleton.mp h ▸ List.mem_cons_self)
    · intro l hl h
      rw [hfirst, Option.mem_some_iff] at hl
      exact hc (List.mem_singleton.mp h ▸ hl ▸ List.mem_cons_of_mem _ List.mem_cons_self)
  simp only [greeting, List.forall_mem_cons]
  exact ⟨hbare '<' (by decide), ⟨hx, by rfl⟩, hbare '\n' (by decide), ⟨hy, by rfl⟩, by simp⟩

/-- A model for one of the two names. -/
def guest : Model := KeyMap.empty.insert "x" (.str "a&b")

theorem guest_texts : ∀ key, .name key ∈ greeting →
    guest.get? key = none ∨ ∃ s, guest.get? key = some (.str s) := by
  intro key hkey
  rw [guest, KeyMap.get?_insert]
  split
  · exact .inr ⟨_, rfl⟩
  · exact .inl rfl

theorem pieces_render_greeting :
    (∃ p t, ofSettings (bracketed (some "zero")) = .ok p ∧
      p.parse "t" "<[[ x \x7d\x7d\n[[ y_1 \x7d\x7d" = .ok t ∧ t.render guest = .ok "<a&amp;b\n") ∧
    ∃ p t, ofSettings (bracketed none) = .ok p ∧
      p.parse "t" "<[[ x \x7d\x7d\n[[ y_1 \x7d\x7d" = .ok t ∧
        ∃ line, t.render guest =
          .error (.templateRender "t" (.template ⟨.undefinedValue, "t", line⟩)) := by
  constructor
  · obtain ⟨p, hp, hparse⟩ := pieces_render (bracketed (some "zero")) (k := .zero) (by decide)
      (drawn_bracketed _)
    obtain ⟨t, ht, hrender⟩ := hparse "t" greeting (fits_greeting _)
    have htext := (hrender guest guest_texts).1 (.inl (by decide))
    exact ⟨p, t, hp, ht, htext⟩
  · obtain ⟨p, hp, hparse⟩ := pieces_render (bracketed none) (k := .error) (by decide)
      (drawn_bracketed _)
    obtain ⟨t, ht, hrender⟩ := hparse "t" greeting (fits_greeting _)
    obtain ⟨front, key, back, -, -, -, hfault⟩ :=
      (hrender guest guest_texts).2 rfl "y_1" (by simp [greeting]) (by decide)
    exact ⟨p, t, hp, ht, _, hfault⟩

end Parser

end TemplateCheck
