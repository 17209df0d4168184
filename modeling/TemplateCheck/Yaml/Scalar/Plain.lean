import TemplateCheck.Yaml.Char

/-!
# Plain scalars

A plain scalar is a run of words. It may go on over several lines that are indented far enough,
which are joined; it ends in front of what means something of its own.

* `word?` — one word of a plain scalar;
* `startsHere` — may a plain scalar begin at the front of a text?
* `text?` — a plain scalar, with the gap behind it.
-/

namespace TemplateCheck.Yaml.Plain

/-- May a plain scalar begin at the front of a text? Inside of brackets if `flow`. -/
def startsHere (flow : Bool) : List Char → Bool
  | [] => false
  | c :: cs =>
    if c = '-' then !cs.head?.any isBlank
    else if c = '?' ∨ c = ':' then !flow && !isWordEnd cs
    else !isGap c && !isIndicator c

/-- The word at the front of a text. A colon directly in front of a sign of its own is a fault
between brackets. -/
def word? (flow : Bool) : List Char → Option (List Char)
  | [] => some []
  | c :: cs =>
    if isGap c then some []
    else if c = ':' ∧ flow ∧ cs.head?.any (fun d => isFlowSign d || d == '?') then none
    else if c = ':' ∧ isWordEnd cs then some []
    else if flow ∧ isFlowSign c then some []
    else (word? flow cs).map (c :: ·)

/-- Is there a tab among the first `indent` columns of a line in a gap? The columns up to `column`
of the line under way have been looked at; in front of the first line end there is none. -/
def hasTabBefore (indent : Nat) (column : Option Nat) : List Char → Bool
  | [] => false
  | c :: cs =>
    if isBreak c then hasTabBefore indent (some 0) cs
    else (c == '\t' && column.any (· < indent)) || hasTabBefore indent (column.map (· + 1)) cs

/-- Does a scalar end at a gap, because of what follows it or because the next line is not
indented by `indent` columns? -/
def endsAt (flow : Bool) (indent : Nat) (gap rest : List Char) : Bool :=
  gap.isEmpty || (!flow && gap.any isBreak && lastColumn gap < indent)
    || (endsLine gap && isMarker rest) || rest.head? = some '#'

/-- What was read of a plain scalar. -/
structure Extent where
  text : List Char
  /-- How many characters it takes with the gap behind it. -/
  length : Nat
  /-- Is there a line end in the gap behind it? -/
  endsLine : Bool
deriving Repr, DecidableEq

/-- The plain scalar at the front of a text; its lines are indented by `indent` columns. -/
def text? (flow : Bool) (indent : Nat) (cs : List Char) : Option Extent :=
  match word? flow cs with
  | none => none
  | some [] => some ⟨[], 0, false⟩
  | some (c :: word) =>
    let rest := cs.drop (word.length + 1)
    let gap := rest.takeWhile isGap
    let last : Extent := ⟨c :: word, word.length + 1 + gap.length, gap.any isBreak⟩
    if hasTabBefore indent none gap then none
    else if endsAt flow indent gap (rest.dropWhile isGap) then some last
    else
      match _h : cs with
      | [] => some last
      | _ :: _ =>
        match text? flow indent (cs.drop (word.length + 1 + gap.length)) with
        | none => none
        | some more =>
          if more.text.isEmpty then some last
          else some ⟨c :: word ++ folded gap ++ more.text, last.length + more.length, more.endsLine⟩
termination_by cs.length
decreasing_by subst _h; simp; omega

end TemplateCheck.Yaml.Plain
