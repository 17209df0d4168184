import TemplateCheck.Text.References
import Mathlib.Algebra.GroupWithZero.Nat
import Mathlib.Data.List.Basic
import Mathlib.Data.List.TakeWhile

/-!
# References to variables: one pass from left to right

How a text is read does not depend on the values of the variables, and no value is read again. The
pieces of a text are told here by a grammar that does not compute anything, and the text with its
references replaced is computed once more by a loop over byte offsets, which goes from one dollar
sign to the next.

* `References.Reads` — the pieces of a text, from left to right;
* `References.reads_iff` — every text is read in exactly one way;
* `References.cut?` — a text cut at a byte offset, which must not fall inside a character;
* `References.round?`, `References.sweep` — one round of the loop, and all of them;
* `References.expand_congr` — only the variables that a text names matter to it;
* `References.expand_in_one_pass` — the text with its references replaced is what the pieces are
  worth, and the loop arrives at it.
-/

namespace TemplateCheck.Text.References

/-! ### The variables that a text names -/

theorem mem_names_iff {text name : String} :
    name ∈ names text ↔
      ∃ cs, Piece.reference cs ∈ pieces text.toList ∧ String.ofList cs = name := by
  rw [names, List.mem_filterMap]
  constructor
  · rintro ⟨piece, hpiece, hname⟩
    cases piece with
    | literal cs => simp at hname
    | reference cs => exact ⟨cs, hpiece, Option.some.inj hname⟩
  · rintro ⟨cs, hpiece, rfl⟩
    exact ⟨.reference cs, hpiece, rfl⟩

/-- Variables that a text does not name do not matter to it. -/
theorem expand_congr {lookup lookup' : String → Option String} {text : String}
    (h : ∀ name ∈ names text, lookup' name = lookup name) :
    expand lookup' text = expand lookup text := by
  rw [expand, expand]
  congr 1
  refine List.flatMap_congr fun piece hpiece => ?_
  cases piece with
  | literal cs => rfl
  | reference cs =>
    have hlookup := h _ (mem_names_iff.mpr ⟨cs, hpiece, rfl⟩)
    rw [Piece.value, Piece.value, hlookup]

/-! ### How a text is read -/

/-- No character that may stand in a name comes first. -/
def EndsName (rest : List Char) : Prop :=
  ∀ c ∈ rest.head?, isNameChar c = false

/-- The pieces of a text, from left to right. -/
inductive Reads : List Char → List Piece → Prop
  | done : Reads [] []
  /-- A character that is no dollar sign stands for itself. -/
  | plain {c : Char} {rest : List Char} {ps : List Piece} (hc : c ≠ '$') (h : Reads rest ps) :
    Reads (c :: rest) (.literal [c] :: ps)
  /-- A name in braces goes up to the first closing brace. -/
  | braced {name rest : List Char} {ps : List Piece} (hname : name ≠ []) (hopen : '\x7d' ∉ name)
    (h : Reads rest ps) :
    Reads ('$' :: '\x7b' :: (name ++ '\x7d' :: rest)) (.reference name :: ps)
  /-- Braces without a name are left out. -/
  | hollow {rest : List Char} {ps : List Piece} (h : Reads rest ps) :
    Reads ('$' :: '\x7b' :: '\x7d' :: rest) (.literal ['$'] :: ps)
  /-- A brace that is not closed is read on after the dollar sign. -/
  | unclosed {rest : List Char} {ps : List Piece} (hopen : '\x7d' ∉ rest)
    (h : Reads ('\x7b' :: rest) ps) : Reads ('$' :: '\x7b' :: rest) (.literal ['$'] :: ps)
  /-- A name without braces goes as far as it can. -/
  | bare {name rest : List Char} {ps : List Piece} (hname : name ≠ [])
    (hchars : ∀ c ∈ name, isNameChar c) (hend : EndsName rest) (h : Reads rest ps) :
    Reads ('$' :: (name ++ rest)) (.reference name :: ps)
  /-- A dollar sign before anything else, or at the end, stands for itself. -/
  | lone {rest : List Char} {ps : List Piece} (hbrace : rest.head? ≠ some '\x7b')
    (hend : EndsName rest) (h : Reads rest ps) : Reads ('$' :: rest) (.literal ['$'] :: ps)

/-! ### The pieces one by one -/

theorem piecesFrom_eq_drop (skip : Nat) (cs : List Char) :
    piecesFrom skip cs = pieces (cs.drop skip) := by
  induction cs generalizing skip with
  | nil => cases skip <;> rfl
  | cons c cs ih =>
    cases skip with
    | zero => rfl
    | succ skip => exact ih skip

theorem pieces_of_ne {c : Char} (hc : c ≠ '$') (cs : List Char) :
    pieces (c :: cs) = .literal [c] :: pieces cs := by
  rw [pieces, piecesFrom, if_neg hc, pieces]

theorem pieces_dollar (cs : List Char) :
    pieces ('$' :: cs) = (afterDollar cs).1 :: pieces (cs.drop (afterDollar cs).2) := by
  rw [pieces, piecesFrom, if_pos rfl, ← piecesFrom_eq_drop]

theorem takeWhile_closing {name : List Char} (hopen : '\x7d' ∉ name) (rest : List Char) :
    (name ++ '\x7d' :: rest).takeWhile (· ≠ '\x7d') = name := by
  rw [List.takeWhile_append_of_pos]
  · simp
  · intro c hc
    simpa using fun h : c = '\x7d' => hopen (h ▸ hc)

theorem takeWhile_nameChar {name rest : List Char} (hchars : ∀ c ∈ name, isNameChar c)
    (hend : EndsName rest) : (name ++ rest).takeWhile isNameChar = name := by
  rw [List.takeWhile_append_of_pos hchars]
  cases rest with
  | nil => simp
  | cons c rest => simp [hend c rfl]

theorem afterDollar_braced {name : List Char} (hopen : '\x7d' ∉ name) (rest : List Char) :
    afterDollar ('\x7b' :: (name ++ '\x7d' :: rest)) =
      if name.isEmpty then (.literal ['$'], 2) else (.reference name, name.length + 2) := by
  rw [afterDollar, takeWhile_closing hopen, if_neg]
  simp

theorem afterDollar_unclosed {rest : List Char} (hopen : '\x7d' ∉ rest) :
    afterDollar ('\x7b' :: rest) = (.literal ['$'], 0) := by
  have hname : rest.takeWhile (· ≠ '\x7d') = rest := by
    have hall : ∀ c ∈ rest, decide (c ≠ '\x7d') = true := fun c hc =>
      decide_eq_true fun h => hopen (h ▸ hc)
    exact List.takeWhile_eq_self_iff.mpr hall
  rw [afterDollar, hname, if_pos rfl]

theorem afterDollar_bare {name rest : List Char} (hbrace : (name ++ rest).head? ≠ some '\x7b')
    (hchars : ∀ c ∈ name, isNameChar c) (hend : EndsName rest) :
    afterDollar (name ++ rest) =
      if name.isEmpty then (.literal ['$'], 0) else (.reference name, name.length) := by
  unfold afterDollar
  split
  · rename_i cs heq
    rw [heq] at hbrace
    exact absurd rfl hbrace
  · rw [takeWhile_nameChar hchars hend]

theorem head?_ne_brace {name : List Char} (hname : name ≠ []) (hchars : ∀ c ∈ name, isNameChar c)
    (rest : List Char) : (name ++ rest).head? ≠ some '\x7b' := by
  cases name with
  | nil => exact absurd rfl hname
  | cons c name =>
    intro h
    obtain rfl : c = '\x7b' := Option.some.inj h
    exact absurd (hchars _ List.mem_cons_self) (by decide)

/-! ### Every text is read in exactly one way -/

theorem Reads.eq_pieces {text : List Char} {ps : List Piece} (h : Reads text ps) :
    ps = pieces text := by
  induction h with
  | done => rfl
  | plain hc _ ih => rw [pieces_of_ne hc, ← ih]
  | @braced name rest ps hname hopen _ ih =>
    have hdrop : ('\x7b' :: (name ++ '\x7d' :: rest)).drop (name.length + 2) = rest := by
      simp [List.drop_append]
    rw [pieces_dollar, afterDollar_braced hopen, if_neg (by simpa using hname), hdrop, ih]
  | @hollow rest ps _ ih =>
    have hafter : afterDollar ('\x7b' :: '\x7d' :: rest) = (.literal ['$'], 2) :=
      afterDollar_braced List.not_mem_nil rest
    rw [pieces_dollar, hafter, ih]
    rfl
  | unclosed hopen _ ih =>
    rw [pieces_dollar, afterDollar_unclosed hopen, ih]
    rfl
  | @bare name rest ps hname hchars hend _ ih =>
    rw [pieces_dollar, afterDollar_bare (head?_ne_brace hname hchars rest) hchars hend,
      if_neg (by simpa using hname), List.drop_left, ih]
  | @lone rest ps hbrace hend _ ih =>
    have hafter : afterDollar rest = (.literal ['$'], 0) :=
      @afterDollar_bare [] rest hbrace (by simp) hend
    rw [pieces_dollar, hafter, ih]
    rfl

/-- The longest name at the front of a text, and what follows it. -/
theorem exists_name_append (cs : List Char) :
    ∃ name rest, cs = name ++ rest ∧ (∀ c ∈ name, isNameChar c) ∧ EndsName rest := by
  refine ⟨cs.takeWhile isNameChar, cs.dropWhile isNameChar,
    List.takeWhile_append_dropWhile.symm, fun c hc => List.mem_takeWhile_imp hc, fun c hc => ?_⟩
  have hhead := List.head?_dropWhile_not isNameChar cs
  rw [Option.mem_def.mp hc] at hhead
  exact hhead

/-- A text behind a dollar sign has a name in closed braces at its front, which may be empty, an
open brace, or a name without braces, which may be empty too. -/
theorem dollar_cases (cs : List Char) :
    (∃ name rest, cs = '\x7b' :: (name ++ '\x7d' :: rest) ∧ '\x7d' ∉ name) ∨
      (∃ inner, cs = '\x7b' :: inner ∧ '\x7d' ∉ inner) ∨
      ∃ name rest, cs = name ++ rest ∧ cs.head? ≠ some '\x7b' ∧ (∀ c ∈ name, isNameChar c) ∧
        EndsName rest := by
  by_cases hbrace : cs.head? = some '\x7b'
  · obtain ⟨inner, rfl⟩ : ∃ inner, cs = '\x7b' :: inner := List.head?_eq_some_iff.mp hbrace
    by_cases hclosed : '\x7d' ∈ inner
    · obtain ⟨name, rest, rfl, hopen⟩ := List.eq_append_cons_of_mem hclosed
      exact .inl ⟨name, rest, rfl, hopen⟩
    · exact .inr (.inl ⟨inner, rfl, hclosed⟩)
  · obtain ⟨name, rest, rfl, hchars, hend⟩ := exists_name_append cs
    exact .inr (.inr ⟨name, rest, rfl, hbrace, hchars, hend⟩)

theorem exists_reads_dollar {cs : List Char}
    (ih : ∀ rest : List Char, rest.length ≤ cs.length → ∃ ps, Reads rest ps) :
    ∃ ps, Reads ('$' :: cs) ps := by
  rcases dollar_cases cs with ⟨name, rest, rfl, hopen⟩ | ⟨inner, rfl, hopen⟩ |
    ⟨name, rest, rfl, hbrace, hchars, hend⟩
  · obtain ⟨ps, h⟩ := ih rest (by simp; omega)
    by_cases hname : name = []
    · subst hname
      exact ⟨_, .hollow h⟩
    · exact ⟨_, .braced hname hopen h⟩
  · obtain ⟨ps, h⟩ := ih ('\x7b' :: inner) (Nat.le_refl _)
    exact ⟨_, .unclosed hopen h⟩
  · obtain ⟨ps, h⟩ := ih rest (by simp)
    by_cases hname : name = []
    · subst hname
      exact ⟨_, .lone hbrace hend h⟩
    · exact ⟨_, .bare hname hchars hend h⟩

theorem exists_reads (text : List Char) : ∃ ps, Reads text ps := by
  induction hn : text.length using Nat.strongRecOn generalizing text with
  | ind n ih =>
    cases text with
    | nil => exact ⟨[], .done⟩
    | cons c cs =>
      have ih' (rest : List Char) (hrest : rest.length ≤ cs.length) : ∃ ps, Reads rest ps :=
        ih rest.length (by rw [List.length_cons] at hn; omega) rest rfl
      by_cases hc : c = '$'
      · subst hc
        exact exists_reads_dollar ih'
      · obtain ⟨ps, h⟩ := ih' cs (Nat.le_refl _)
        exact ⟨_, .plain hc h⟩

/-- A text is read in exactly one way. -/
theorem reads_iff {text : List Char} {ps : List Piece} : Reads text ps ↔ ps = pieces text := by
  refine ⟨Reads.eq_pieces, ?_⟩
  rintro rfl
  obtain ⟨ps, h⟩ := exists_reads text
  exact h.eq_pieces ▸ h

/-- No name is empty. -/
theorem Reads.name_ne_nil {text : List Char} {ps : List Piece} (h : Reads text ps) :
    ∀ name, .reference name ∈ ps → name ≠ [] := by
  induction h with
  | done => simp
  | plain _ _ ih => simpa using ih
  | braced hname _ _ ih => simpa [hname] using ih
  | hollow _ ih => simpa using ih
  | unclosed _ _ ih => simpa using ih
  | bare hname _ _ _ ih => simpa [hname] using ih
  | lone _ _ _ ih => simpa using ih

/-! ### The loop over byte offsets -/

/-- The number of bytes of a text in UTF-8. -/
def byteLength (cs : List Char) : Nat :=
  (cs.map Char.utf8Size).sum

/-- The byte offset of the first character that passes. -/
def offset? (p : Char → Bool) (cs : List Char) : Option Nat :=
  if cs.any p then some (byteLength (cs.takeWhile (!p ·))) else none

/-- A text cut at a byte offset, unless that falls inside a character or behind the end. -/
def cut? : Nat → List Char → Option (List Char × List Char)
  | 0, cs => some ([], cs)
  | _ + 1, [] => none
  | n + 1, c :: cs =>
    if c.utf8Size ≤ n + 1 then (cut? (n + 1 - c.utf8Size) cs).map fun (a, b) => (c :: a, b)
    else none

/-- What a round of the loop finds: the text in front of a dollar sign, what the dollar sign is part
of, and the text that is left. -/
structure Round where
  front : List Char
  piece : Piece
  rest : List Char

/-- A name that may be empty: then the dollar sign in front of it is left. -/
def named (name : List Char) : Piece :=
  if name.isEmpty then .literal ['$'] else .reference name

/-- One round of the loop, unless a cut fails. Without a dollar sign there is none. -/
def round? (rest : List Char) : Option (Option Round) :=
  match offset? (· == '$') rest with
  | none => some none
  | some index => do
    let (front, _) ← cut? index rest
    let (_, after) ← cut? (index + 1) rest
    match after with
    | '\x7b' :: inner =>
      match offset? (· == '\x7d') inner with
      | none => return some ⟨front, .literal ['$'], after⟩
      | some stop => do
        let (name, _) ← cut? stop inner
        let (_, remainder) ← cut? (stop + 1) inner
        return some ⟨front, named name, remainder⟩
    | after =>
      let stop := (offset? (!isNameChar ·) after).getD (byteLength after)
      let (name, remainder) ← cut? stop after
      return some ⟨front, named name, remainder⟩

/-- The text that at most so many rounds make of a text, unless a cut fails or a further round is
needed. -/
def sweepUpTo (lookup : String → Option String) : Nat → List Char → Option (List Char)
  | 0, _ => none
  | n + 1, rest => do
    match ← round? rest with
    | none => return rest
    | some r => return r.front ++ Piece.value lookup r.piece ++ (← sweepUpTo lookup n r.rest)

/-- The loop. A round for each character, and the one that ends it, are enough. -/
def sweep (lookup : String → Option String) (text : String) : Option String :=
  (sweepUpTo lookup (text.toList.length + 1) text.toList).map String.ofList

/-! ### Offsets of characters -/

/-- To cut behind a part of a text never falls inside a character. -/
theorem cut?_byteLength (front back : List Char) :
    cut? (byteLength front) (front ++ back) = some (front, back) := by
  induction front with
  | nil => cases back <;> rfl
  | cons c front ih =>
    have hpos : 0 < c.utf8Size := c.utf8Size_pos
    obtain ⟨n, hn⟩ : ∃ n, byteLength (c :: front) = n + 1 :=
      Nat.exists_eq_succ_of_ne_zero (by simp [byteLength]; omega)
    have hleft : n + 1 - c.utf8Size = byteLength front := by
      rw [← hn]
      simp [byteLength]
    have hle : c.utf8Size ≤ n + 1 := by
      rw [← hn]
      simp [byteLength]
    rw [hn, List.cons_append, cut?, if_pos hle, hleft, ih]
    rfl

theorem cut?_behind {front : List Char} {c : Char} (hc : c.utf8Size = 1) (back : List Char) :
    cut? (byteLength front + 1) (front ++ c :: back) = some (front ++ [c], back) := by
  have hlength : byteLength (front ++ [c]) = byteLength front + 1 := by
    simp [byteLength, hc]
  rw [← hlength, ← cut?_byteLength (front ++ [c]) back]
  simp

theorem offset?_eq_none {p : Char → Bool} {cs : List Char} (h : ∀ c ∈ cs, p c = false) :
    offset? p cs = none := by
  rw [offset?, if_neg]
  simpa using h

theorem offset?_append {p : Char → Bool} {front back : List Char} {c : Char}
    (hfront : ∀ a ∈ front, p a = false) (hc : p c) :
    offset? p (front ++ c :: back) = some (byteLength front) := by
  rw [offset?, if_pos (by simp [hc]), List.takeWhile_append_of_pos (by simpa using hfront)]
  simp [hc]

/-! ### The loop arrives at the pieces -/

theorem pieces_append {front : List Char} (hfront : '$' ∉ front) (rest : List Char) :
    pieces (front ++ rest) = front.map (fun c => .literal [c]) ++ pieces rest := by
  induction front with
  | nil => rfl
  | cons c front ih =>
    obtain ⟨hc, hfront⟩ := not_or.mp (mt List.mem_cons.mpr hfront)
    rw [List.cons_append, pieces_of_ne (Ne.symm hc), ih hfront]
    rfl

theorem flatMap_value_plain (lookup : String → Option String) (front : List Char) :
    (front.map fun c => Piece.literal [c]).flatMap (Piece.value lookup) = front := by
  induction front with
  | nil => rfl
  | cons c front ih =>
    rw [List.map_cons, List.flatMap_cons, ih]
    rfl

theorem round?_of_notMem {rest : List Char} (h : '$' ∉ rest) : round? rest = some none := by
  have hnone : offset? (· == '$') rest = none :=
    offset?_eq_none fun c hc => beq_false_of_ne fun hdollar => h (hdollar ▸ hc)
  rw [round?, hnone]

/-- A round finds what the first dollar sign is part of. None of its cuts fails: each is next to a
character of one byte, or at the end. -/
theorem round?_dollar {front : List Char} (hfront : '$' ∉ front) (cs : List Char) :
    round? (front ++ '$' :: cs) =
      some (some ⟨front, (afterDollar cs).1, cs.drop (afterDollar cs).2⟩) := by
  have hindex : offset? (· == '$') (front ++ '$' :: cs) = some (byteLength front) :=
    offset?_append (fun c hc => beq_false_of_ne fun hdollar => hfront (hdollar ▸ hc)) rfl
  simp only [round?, hindex, cut?_byteLength, cut?_behind (c := '$') rfl, Option.bind_eq_bind,
    Option.bind_some, Option.pure_def]
  rcases dollar_cases cs with ⟨name, rest, rfl, hopen⟩ | ⟨inner, rfl, hopen⟩ |
    ⟨name, rest, rfl, hbrace, hchars, hend⟩
  · have hstop : offset? (· == '\x7d') (name ++ '\x7d' :: rest) = some (byteLength name) :=
      offset?_append (fun c hc => beq_false_of_ne fun hclosing => hopen (hclosing ▸ hc)) rfl
    simp only [hstop, cut?_byteLength, cut?_behind (c := '\x7d') rfl, Option.bind_some,
      afterDollar_braced hopen, named]
    split
    · rename_i hname
      obtain rfl := List.isEmpty_iff.mp hname
      rfl
    · simp [List.drop_append]
  · have hnone : offset? (· == '\x7d') inner = none :=
      offset?_eq_none fun c hc => beq_false_of_ne fun hclosing => hopen (hclosing ▸ hc)
    simp only [hnone, afterDollar_unclosed hopen]
    rfl
  · have hstop : (offset? (!isNameChar ·) (name ++ rest)).getD (byteLength (name ++ rest)) =
        byteLength name := by
      have hname : ∀ c ∈ name, (!isNameChar c) = false := by simpa using hchars
      cases rest with
      | nil => rw [List.append_nil, offset?_eq_none hname, Option.getD_none]
      | cons c rest =>
        rw [offset?_append hname (by simpa using hend c rfl), Option.getD_some]
    split
    · rename_i inner heq
      rw [heq] at hbrace
      exact absurd rfl hbrace
    · simp only [hstop, cut?_byteLength, Option.bind_some, afterDollar_bare hbrace hchars hend,
        named]
      split
      · rename_i hname
        obtain rfl := List.isEmpty_iff.mp hname
        rfl
      · simp

/-- In a text there is no dollar sign, or there is a first one. -/
theorem dollar_or_not (rest : List Char) :
    '$' ∉ rest ∨ ∃ front cs, rest = front ++ '$' :: cs ∧ '$' ∉ front := by
  by_cases h : '$' ∈ rest
  · exact .inr (List.eq_append_cons_of_mem h)
  · exact .inl h

/-- No cut of a round fails, and a round leaves less of the text. -/
theorem exists_round (rest : List Char) :
    ∃ found, round? rest = some found ∧ ∀ r, found = some r → r.rest.length < rest.length := by
  rcases dollar_or_not rest with h | ⟨front, cs, rfl, hfront⟩
  · exact ⟨none, round?_of_notMem h, by simp⟩
  · refine ⟨_, round?_dollar hfront cs, ?_⟩
    rintro r ⟨⟩
    simp only [List.length_drop, List.length_append, List.length_cons]
    omega

theorem sweepUpTo_eq (lookup : String → Option String) {n : Nat} {rest : List Char}
    (hn : rest.length < n) :
    sweepUpTo lookup n rest = some ((pieces rest).flatMap (Piece.value lookup)) := by
  induction n generalizing rest with
  | zero => omega
  | succ n ih =>
    rcases dollar_or_not rest with h | ⟨front, cs, rfl, hfront⟩
    · have hplain := pieces_append h []
      rw [List.append_nil] at hplain
      simp only [sweepUpTo, round?_of_notMem h, hplain]
      rw [List.flatMap_append, flatMap_value_plain]
      exact congrArg some (List.append_nil rest).symm
    · have hlength : (cs.drop (afterDollar cs).2).length < n := by
        simp only [List.length_append, List.length_cons] at hn
        simp only [List.length_drop]
        omega
      simp only [sweepUpTo, round?_dollar hfront, Option.bind_eq_bind, Option.bind_some, ih hlength]
      rw [pieces_append hfront, pieces_dollar, List.flatMap_append, flatMap_value_plain,
        List.flatMap_cons, ← List.append_assoc]
      rfl

theorem sweep_eq (lookup : String → Option String) (text : String) :
    sweep lookup text = some (expand lookup text) := by
  rw [sweep, sweepUpTo_eq lookup (Nat.lt_succ_self _)]
  rfl

/-- A text is read in one way, whatever the variables hold, and no name in it is empty. With its
references replaced it is the literal pieces and, for each name, the value or nothing, put together.
The loop arrives at the same: no cut falls inside a character, and every round leaves less of the
text. -/
theorem expand_in_one_pass (text : String) :
    ∃ ps, Reads text.toList ps ∧ (∀ qs, Reads text.toList qs → qs = ps) ∧
      (∀ name, .reference name ∈ ps → name ≠ []) ∧
      (∀ lookup, expand lookup text = String.ofList (ps.flatMap (Piece.value lookup)) ∧
        sweep lookup text = some (expand lookup text)) ∧
      ∀ rest, ∃ found, round? rest = some found ∧
        ∀ r, found = some r → r.rest.length < rest.length := by
  have h : Reads text.toList (pieces text.toList) := reads_iff.mpr rfl
  exact ⟨pieces text.toList, h, fun qs hqs => reads_iff.mp hqs, h.name_ne_nil,
    fun lookup => ⟨rfl, sweep_eq lookup text⟩, exists_round⟩

end TemplateCheck.Text.References
