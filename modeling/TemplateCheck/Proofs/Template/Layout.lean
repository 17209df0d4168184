import TemplateCheck.Template.Stmt.Reader

/-!
# Texts with names in them

The simplest templates are texts in which names stand between marks, with one blank on each side.
The reader of tokens takes them apart where they were put together, whatever the marks are, as long
as nothing in the texts can begin a tag.

* `IsMark`, `Delimiters.Drawn` — marks as they may be drawn;
* `Delimiters.Bare`, `IsName` — the texts and the names;
* `Layout` — texts and names in turn, with its `source` and its `lexemes`;
* `Token.scanFrom_bare`, `Token.scanFrom_tag` — what the reader makes of a text, and of a tag behind
  one;
* `Layout.scanFrom_source` — the tokens of a layout.

A tag lies on one line, the one that the text in front of it ends on. Two texts next to each other
are one token, so a layout has exactly one text in front of each name and one at the end.
-/

namespace TemplateCheck.Template

open Text (isAsciiBlank)

/-- A mark as it may be drawn: the usual one, or some of the signs `[`, `]`, `<`, `>`, `@` and
`$`. -/
def IsMark (usual mark : List Char) : Prop :=
  mark = usual ∨ mark ≠ [] ∧ ∀ c ∈ mark, c ∈ ['[', ']', '<', '>', '@', '$']

namespace Delimiters

/-- Both marks are drawn so. -/
structure Drawn (d : Delimiters) : Prop where
  left : IsMark standard.left d.left
  right : IsMark standard.right d.right

/-- The tag that prints the value of a name. -/
def tag (d : Delimiters) (key : String) : List Char :=
  d.left ++ ' ' :: (key.toList ++ ' ' :: d.right)

/-- A text in which no tag can begin. -/
structure Bare (d : Delimiters) (text : List Char) : Prop where
  brace : '\x7b' ∉ text
  first : ∀ c ∈ d.left.head?, c ∉ text

theorem drawn_standard : standard.Drawn :=
  ⟨.inl rfl, .inl rfl⟩

/-- Between the usual marks all texts without an opening brace can stand. -/
theorem bare_standard {text : List Char} (h : '\x7b' ∉ text) : standard.Bare text where
  brace := h
  first := by
    intro c hc
    have hhead : standard.left.head? = some '\x7b' := rfl
    rw [hhead, Option.mem_some_iff] at hc
    exact hc ▸ h

end Delimiters

/-- A letter or `_`, and then letters, digits and `_`, but no word that is a value or an operator of
its own. -/
structure IsName (key : String) : Prop where
  shape : ∃ c cs, key.toList = c :: cs ∧ (c = '_' ∨ c.isAlpha) ∧ ∀ e ∈ cs, e = '_' ∨ e.isAlphanum
  free : key ∉ ["true", "True", "false", "False", "none", "None", "not"]

/-- A text with names in it: what stands in front of each name, and behind the last one. -/
inductive Layout where
  | last (text : List Char)
  | slot (front : List Char) (key : String) (rest : Layout)

namespace Layout

/-- A layout as it is written. -/
def source (d : Delimiters) : Layout → List Char
  | .last text => text
  | .slot front key rest => front ++ (d.tag key ++ rest.source d)

/-- The tokens of a layout that starts on a line. -/
def lexemes (line : Nat) : Layout → List Lexeme
  | .last text => Token.dataToken line text
  | .slot front key rest =>
    let here := line + Token.lineEnds front
    Token.dataToken line front ++
      ⟨.openVariable, here⟩ :: ⟨.name key, here⟩ :: ⟨.closeVariable, here⟩ :: rest.lexemes here

/-- The texts of a layout. -/
def texts : Layout → List (List Char)
  | .last text => [text]
  | .slot front _ rest => front :: rest.texts

/-- The names in a layout. -/
def keys : Layout → List String
  | .last _ => []
  | .slot _ key rest => key :: rest.keys

end Layout

/-! ### Characters -/

namespace Token

/-- A character of a name is no other one. -/
theorem ne_of_isNameChar {c s : Char} (hc : isNameChar c = true) (hs : isNameChar s = false) :
    c ≠ s := by
  rintro rfl
  rw [hc] at hs
  cases hs

theorem isAsciiBlank_of_isNameChar {c : Char} (h : isNameChar c = true) :
    isAsciiBlank c = false := by
  have hblanks : ∀ s ∈ [' ', '\t', '\n', '\x0c', '\r'], isNameChar s = false := by
    simp [isNameChar]
  have hne : ∀ s ∈ [' ', '\t', '\n', '\x0c', '\r'], c ≠ s := fun s hs =>
    ne_of_isNameChar h (hblanks s hs)
  simp only [List.forall_mem_cons] at hne
  simp [isAsciiBlank, hne]

theorem shortSign?_of_isNameChar {c : Char} (h : isNameChar c = true) : shortSign? c = none := by
  unfold shortSign?
  split <;> first | rfl | exact absurd h (by decide)

theorem longSign?_of_isNameChar {c : Char} (h : isNameChar c = true) (e : Char) :
    longSign? c e = none := by
  have hsigns : ∀ s ∈ ['/', '*', '=', '!', '<', '>'], isNameChar s = false := by
    simp [isNameChar]
  have hne : ∀ s ∈ ['/', '*', '=', '!', '<', '>'], c ≠ s := fun s hs =>
    ne_of_isNameChar h (hsigns s hs)
  simp only [List.forall_mem_cons] at hne
  simp [longSign?, hne]

theorem isDigit_of_isAlpha {c : Char} (h : c.isAlpha = true) : c.isDigit = false := by
  -- Every letter comes behind the last digit.
  have hbehind : '9'.val < c.val := by
    rcases Bool.or_eq_true_iff.mp h with hupper | hlower
    · exact UInt32.lt_of_lt_of_le (by decide) (of_decide_eq_true hupper).1
    · have hfirst := (Bool.and_eq_true_iff.mp hlower).1
      exact UInt32.lt_of_lt_of_le (by decide) (of_decide_eq_true hfirst)
  have hnot : ¬ c.val ≤ '9'.val := UInt32.not_le.mpr hbehind
  exact Bool.and_eq_false_iff.mpr (.inr (decide_eq_false hnot))

theorem control_of_notMem {c : Char} (h : c ∉ ['-', '+']) (cs : List Char) :
    control (c :: cs) = .none := by
  simp only [List.mem_cons, List.not_mem_nil, or_false, not_or] at h
  unfold control
  split
  · rename_i heq
    exact absurd (List.cons.inj heq).1 h.1
  · rename_i heq
    exact absurd (List.cons.inj heq).1 h.2
  · rfl

theorem lineEnds_append (front back : List Char) :
    lineEnds (front ++ back) = lineEnds front + lineEnds back :=
  List.count_append

end Token

theorem IsName.lineEnds {key : String} (h : IsName key) :
    Token.lineEnds key.toList = 0 := by
  obtain ⟨c, cs, hcs, hc, hall⟩ := h.shape
  refine List.count_eq_zero.mpr fun hmem => ?_
  rw [hcs, List.mem_cons] at hmem
  rcases hmem with rfl | hmem
  · exact absurd hc (by decide)
  · exact absurd (hall _ hmem) (by decide)

/-! ### Marks -/

namespace Delimiters.Drawn

variable {d : Delimiters}

theorem left_ne_nil (hd : d.Drawn) : d.left ≠ [] := by
  rcases hd.left with h | ⟨h, -⟩
  · simp [h, standard]
  · exact h

theorem right_ne_nil (hd : d.Drawn) : d.right ≠ [] := by
  rcases hd.right with h | ⟨h, -⟩
  · simp [h, standard]
  · exact h

/-- All that marks are drawn with. -/
theorem mem_signs (hd : d.Drawn) {c : Char} (hc : c ∈ d.left ++ d.right) :
    c ∈ ['[', ']', '<', '>', '@', '$', '\x7b', '\x7d'] := by
  have hmark {usual mark : List Char} (h : IsMark usual mark)
      (husual : ∀ c ∈ usual, c ∈ ['\x7b', '\x7d']) (hc : c ∈ mark) :
      c ∈ ['[', ']', '<', '>', '@', '$', '\x7b', '\x7d'] := by
    rcases h with rfl | ⟨-, hall⟩
    · exact List.mem_append_right ['[', ']', '<', '>', '@', '$'] (husual c hc)
    · exact List.mem_append_left ['\x7b', '\x7d'] (hall c hc)
  rcases List.mem_append.mp hc with hc | hc
  · exact hmark hd.left (by simp [standard]) hc
  · exact hmark hd.right (by simp [standard]) hc

/-- A mark has no blank in it, no character of a name, and no sign that may stand beside a mark. -/
theorem signs_apart (hd : d.Drawn) {c : Char} (hc : c ∈ d.left ++ d.right) :
    isAsciiBlank c = false ∧ Token.isNameChar c = false ∧ c ∉ ['-', '+'] := by
  have hsigns : ∀ c ∈ ['[', ']', '<', '>', '@', '$', '\x7b', '\x7d'],
      isAsciiBlank c = false ∧ Token.isNameChar c = false ∧ c ∉ ['-', '+'] := by
    simp [isAsciiBlank, Token.isNameChar]
  exact hsigns c (hd.mem_signs hc)

/-- No mark goes over the end of a line. -/
theorem lineEnds_eq_zero (hd : d.Drawn) : Token.lineEnds (d.left ++ d.right) = 0 :=
  List.count_eq_zero.mpr fun hmem => absurd (hd.mem_signs hmem) (by decide)

end Delimiters.Drawn

/-- Nor does a tag. -/
theorem IsName.lineEnds_tag {d : Delimiters} {key : String} (h : IsName key) (hd : d.Drawn) :
    Token.lineEnds (d.tag key) = 0 := by
  have hkey := h.lineEnds
  have hmarks := hd.lineEnds_eq_zero
  simp only [Token.lineEnds, List.count_append] at hkey hmarks
  simp only [Token.lineEnds, Delimiters.tag, List.count_append, List.count_cons]
  simp
  omega

namespace Token

variable {d : Delimiters}

theorem marker?_of_ne (hd : d.Drawn) {c : Char} (hbrace : c ≠ '\x7b')
    (hfirst : d.left.head? ≠ some c) (cs : List Char) : marker? d (c :: cs) = none := by
  obtain ⟨l, ls, hl⟩ := List.exists_cons_of_ne_nil hd.left_ne_nil
  have hlc : l ≠ c := by simpa [hl] using hfirst
  simp [marker?, blockStart, commentStart, hl, hlc, hbrace.symm]

theorem marker?_left (hd : d.Drawn) (cs : List Char) :
    marker? d (d.left ++ cs) = some (.variable, d.left.length) := by
  rcases hd.left with hl | ⟨hne, hall⟩
  · simp [marker?, blockStart, commentStart, hl, Delimiters.standard]
  · obtain ⟨l, ls, hl⟩ := List.exists_cons_of_ne_nil hne
    have hbrace : l ≠ '\x7b' := by
      rintro rfl
      exact absurd (hall _ (hl ▸ List.mem_cons_self)) (by decide)
    simp [marker?, blockStart, commentStart, hl, hbrace.symm]

theorem find_append (hd : d.Drawn) {front : List Char} (hfront : d.Bare front) (cs : List Char) :
    find d (front ++ cs) = (front ++ (find d cs).1, (find d cs).2) := by
  induction front with
  | nil => rfl
  | cons c front ih =>
    have hbrace : c ≠ '\x7b' := fun h => hfront.brace (h ▸ List.mem_cons_self)
    have hfirst : d.left.head? ≠ some c := fun h => hfront.first c h List.mem_cons_self
    have hrest : d.Bare front :=
      ⟨fun h => hfront.brace (List.mem_cons_of_mem _ h),
        fun l hl h => hfront.first l hl (List.mem_cons_of_mem _ h)⟩
    rw [List.cons_append, find, marker?_of_ne hd hbrace hfirst, ih hrest]
    rfl

theorem find_bare (hd : d.Drawn) {text : List Char} (htext : d.Bare text) :
    find d text = (text, none) := by
  simpa [find] using find_append hd htext []

theorem find_left (hd : d.Drawn) {front : List Char} (hfront : d.Bare front) (cs : List Char) :
    find d (front ++ (d.left ++ cs)) = (front, some (.variable, d.left.length)) := by
  have hmarker := marker?_left hd cs
  obtain ⟨l, ls, hl⟩ := List.exists_cons_of_ne_nil hd.left_ne_nil
  rw [find_append hd hfront]
  rw [hl, List.cons_append] at hmarker ⊢
  rw [find, hmarker, List.append_nil]

/-! ### Steps -/

theorem outside_bare (hd : d.Drawn) {text : List Char} (htext : d.Bare text) (line : Nat) :
    outside d false line text = .next (dataToken line text) (.outside false) text.length := by
  simp [outside, lineEnds, find_bare hd htext]

theorem outside_left (hd : d.Drawn) {front : List Char} (hfront : d.Bare front) (line : Nat)
    (cs : List Char) :
    outside d false line ((front ++ d.left) ++ ' ' :: cs) =
      .next (dataToken line front ++ [⟨.openVariable, line + lineEnds front⟩]) (.inside .variable 0)
        (front ++ d.left).length := by
  have hfind : find d ((front ++ d.left) ++ ' ' :: cs) =
      (front, some (.variable, d.left.length)) := by
    rw [List.append_assoc, find_left hd hfront]
  have hbehind : ((front ++ d.left) ++ ' ' :: cs).drop (front.length + d.left.length) =
      ' ' :: cs := by
    rw [← List.length_append, List.drop_left]
  simp only [outside, Bool.false_eq_true, if_false, List.length_nil, List.drop_zero, hfind, hbehind,
    control, Control.length]
  simp [lineEnds]

theorem step_blank (line : Nat) (cs : List Char) :
    step d (.inside .variable 0) line ' ' cs = .next [] (.inside .variable 0) 1 :=
  rfl

theorem step_right (hd : d.Drawn) (line : Nat) {r : Char} {rs : List Char} (hr : d.right = r :: rs)
    (cs : List Char) :
    step d (.inside .variable 0) line r (rs ++ cs) =
      .next [⟨.closeVariable, line⟩] (.outside false) d.right.length := by
  have hmem : r ∈ d.left ++ d.right := List.mem_append_right _ (hr ▸ List.mem_cons_self)
  obtain ⟨hblank, -, hsign⟩ := hd.signs_apart hmem
  have hend : end? d .variable (r :: (rs ++ cs)) = some (.none, d.right.length) := by
    simp [end?, closing, control_of_notMem hsign, hr]
  simp [step, inside, hblank, hend]

theorem closing_of_isNameChar (hd : d.Drawn) {c : Char} (hc : isNameChar c = true)
    (cs : List Char) : end? d .variable (c :: cs) = none := by
  obtain ⟨r, rs, hr⟩ := List.exists_cons_of_ne_nil hd.right_ne_nil
  have hmem : r ∈ d.left ++ d.right := List.mem_append_right _ (hr ▸ List.mem_cons_self)
  have hne : r ≠ c := (ne_of_isNameChar hc (hd.signs_apart hmem).2.1).symm
  have hsign : c ∉ ['-', '+'] := by
    have hminus : c ≠ '-' := ne_of_isNameChar hc (by decide)
    have hplus : c ≠ '+' := ne_of_isNameChar hc (by decide)
    simp [hminus, hplus]
  simp [end?, closing, control_of_notMem hsign, hr, hne]

/-- A name goes as far as the blank behind it. -/
theorem step_name (hd : d.Drawn) (line : Nat) {key : String} {c : Char} {cs : List Char}
    (hcs : key.toList = c :: cs) (hc : c = '_' ∨ c.isAlpha)
    (hall : ∀ e ∈ cs, e = '_' ∨ e.isAlphanum) (rest : List Char) :
    step d (.inside .variable 0) line c (cs ++ ' ' :: rest) =
      .next [⟨.name key, line⟩] (.inside .variable 0) key.toList.length := by
  have hname : isNameChar c = true := by
    rcases hc with rfl | hc
    · rfl
    · simp [isNameChar, Char.isAlphanum, hc]
  have hdigit : c.isDigit = false := by
    rcases hc with rfl | hc
    · rfl
    · exact isDigit_of_isAlpha hc
  have hquote : ¬ (c = '\x27' ∨ c = '"') := by
    rintro (rfl | rfl) <;> exact absurd hname (by decide)
  have htake : (cs ++ ' ' :: rest).takeWhile isNameChar = cs := by
    have hblank : isNameChar ' ' = false := by decide
    rw [List.takeWhile_append_of_pos, List.takeWhile_cons_of_neg, List.append_nil]
    · simp [hblank]
    · intro e he
      rcases hall e he with rfl | he
      · rfl
      · simp [isNameChar, he]
  have hlong : (cs ++ ' ' :: rest).head?.bind (longSign? c) = none :=
    Option.bind_eq_none_iff.mpr fun e _ => longSign?_of_isNameChar hname e
  have hkey : String.ofList (c :: cs) = key := by rw [← hcs, String.ofList_toList]
  simp only [step, inside, isAsciiBlank_of_isNameChar hname, closing_of_isNameChar hd hname,
    ite_self,
    hlong, shortSign?_of_isNameChar hname, if_neg hquote, hdigit, hname, htake, hkey, if_true,
    Bool.false_eq_true, if_false, List.length_cons, hcs]

/-! ### Runs -/

theorem scanFrom_nil (mode : Mode) (line : Nat) : scanFrom d mode line [] = ⟨[], none⟩ := by
  rw [scanFrom]

/-- Behind what one step uses up, the reader goes on. -/
theorem scanFrom_append {mode mode' : Mode} {line : Nat} {used rest : List Char}
    {lexemes : List Lexeme} {c : Char} {cs : List Char} (hused : used = c :: cs)
    (h : step d mode line c (cs ++ rest) = .next lexemes mode' used.length) :
    scanFrom d mode line (used ++ rest) =
      Lexed.after lexemes (scanFrom d mode' (line + lineEnds used) rest) := by
  subst hused
  rw [List.cons_append, scanFrom, h]
  simp

theorem scanFrom_blank (line : Nat) (rest : List Char) :
    scanFrom d (.inside .variable 0) line (' ' :: rest) =
      scanFrom d (.inside .variable 0) line rest :=
  have hblank : [' '] = ' ' :: [] := rfl
  scanFrom_append hblank (step_blank line rest)

theorem scanFrom_outside {mode : Mode} {line : Nat} {used rest : List Char} {lexemes : List Lexeme}
    (hne : used ≠ []) (h : outside d false line (used ++ rest) = .next lexemes mode used.length) :
    scanFrom d (.outside false) line (used ++ rest) =
      Lexed.after lexemes (scanFrom d mode (line + lineEnds used) rest) := by
  obtain ⟨c, cs, rfl⟩ := List.exists_cons_of_ne_nil hne
  exact scanFrom_append rfl h

/-- A text without tags is one token, if it is not empty. -/
theorem scanFrom_bare (hd : d.Drawn) {text : List Char} (htext : d.Bare text) (line : Nat) :
    scanFrom d (.outside false) line text = ⟨dataToken line text, none⟩ := by
  by_cases hempty : text = []
  · rw [hempty, scanFrom_nil]
    rfl
  · have hstep := outside_bare hd htext line
    rw [← List.append_nil text] at hstep ⊢
    rw [scanFrom_outside hempty (by simpa using hstep), scanFrom_nil]
    simp [Lexed.after]

/-- A tag behind a text is three tokens on the line that the text ends on. -/
theorem scanFrom_tag (hd : d.Drawn) {front : List Char} (hfront : d.Bare front) {key : String}
    (hkey : IsName key) (line : Nat) (rest : List Char) :
    scanFrom d (.outside false) line (front ++ (d.tag key ++ rest)) =
      Lexed.after
        (dataToken line front ++
          [⟨.openVariable, line + lineEnds front⟩, ⟨.name key, line + lineEnds front⟩,
            ⟨.closeVariable, line + lineEnds front⟩])
        (scanFrom d (.outside false) (line + lineEnds front) rest) := by
  have hkeyLines := hkey.lineEnds
  have hmarkLines := hd.lineEnds_eq_zero
  rw [lineEnds_append, Nat.add_eq_zero_iff] at hmarkLines
  obtain ⟨c, cs, hcs, hc, hall⟩ := hkey.shape
  obtain ⟨r, rs, hr⟩ := List.exists_cons_of_ne_nil hd.right_ne_nil
  let here := line + lineEnds front
  let behind := d.right ++ rest
  have hopen : line + lineEnds (front ++ d.left) = here := by
    rw [lineEnds_append, hmarkLines.1, Nat.add_zero]
  calc
    scanFrom d (.outside false) line (front ++ (d.tag key ++ rest))
      = scanFrom d (.outside false) line
          ((front ++ d.left) ++ ' ' :: (key.toList ++ ' ' :: behind)) := by
        simp [Delimiters.tag, behind]
    _ = Lexed.after (dataToken line front ++ [⟨.openVariable, here⟩])
          (scanFrom d (.inside .variable 0) here (' ' :: (key.toList ++ ' ' :: behind))) := by
        rw [scanFrom_outside (List.append_ne_nil_of_right_ne_nil _ hd.left_ne_nil)
          (outside_left hd hfront line _), hopen]
    _ = Lexed.after (dataToken line front ++ [⟨.openVariable, here⟩])
          (Lexed.after [⟨.name key, here⟩]
            (scanFrom d (.inside .variable 0) here (' ' :: behind))) := by
        rw [scanFrom_blank, scanFrom_append hcs (step_name hd here hcs hc hall behind), hkeyLines,
          Nat.add_zero]
    _ = Lexed.after (dataToken line front ++ [⟨.openVariable, here⟩])
          (Lexed.after [⟨.name key, here⟩]
            (Lexed.after [⟨.closeVariable, here⟩] (scanFrom d (.outside false) here rest))) := by
        rw [scanFrom_blank, scanFrom_append hr (step_right hd here hr rest), hmarkLines.2,
          Nat.add_zero]
    _ = _ := by simp [Lexed.after, here]

end Token

/-- The tokens of a layout are those of its texts and tags. -/
theorem Layout.scanFrom_source {d : Delimiters} (hd : d.Drawn) {layout : Layout}
    (htexts : ∀ text ∈ layout.texts, d.Bare text) (hkeys : ∀ key ∈ layout.keys, IsName key)
    (line : Nat) :
    Token.scanFrom d (.outside false) line (layout.source d) = ⟨layout.lexemes line, none⟩ := by
  induction layout generalizing line with
  | last text => exact Token.scanFrom_bare hd (htexts text List.mem_cons_self) line
  | slot front key rest ih =>
    rw [texts, List.forall_mem_cons] at htexts
    rw [keys, List.forall_mem_cons] at hkeys
    rw [source, Token.scanFrom_tag hd htexts.1 hkeys.1, ih htexts.2 hkeys.2]
    simp [Lexed.after, lexemes]

end TemplateCheck.Template
