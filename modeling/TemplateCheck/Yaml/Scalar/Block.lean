import TemplateCheck.Yaml.Char

/-!
# Block scalars

A block scalar is a run of lines below its mark that are indented far enough. A literal one keeps
its line ends, in a folded one they are joined.

* `Heading` — what the rest of the line with the mark says;
* `Line` — a line of a block scalar, with the empty lines in front of it;
* `textOf` — the text that the lines make;
* `text?` — a block scalar behind its mark.
-/

namespace TemplateCheck.Yaml.Block

/-! ### Heading -/

/-- What becomes of the line ends at the end of a block scalar. -/
inductive Chomp where
  | strip
  | clip
  | keep
deriving Repr, DecidableEq

/-- What the rest of the line with the mark says. -/
structure Heading where
  chomp : Chomp
  /-- How far the lines are indented, if that is said. -/
  indent : Option Nat
deriving Repr, DecidableEq

/-- The sign for the line ends at the front of a text. -/
def chomp? : List Char → Option Chomp
  | '-' :: _ => some .strip
  | '+' :: _ => some .keep
  | _ => none

/-- The indentation at the front of a text; naught is none. -/
def indent? : List Char → Option (Option Nat)
  | [] => some none
  | c :: _ =>
    if c = '0' then none
    else if c.isDigit then some (some (c.toNat - '0'.toNat))
    else some none

/-- The number of characters of something that takes one, if it is there. -/
def width {α : Type} (o : Option α) : Nat :=
  if o.isSome then 1 else 0

/-- The heading at the front of a text, its two signs in any order, and how many characters they
take. -/
def signs? (cs : List Char) : Option (Heading × Nat) :=
  match chomp? cs with
  | some chomp =>
    (indent? (cs.drop 1)).map fun indent => (⟨chomp, indent⟩, 1 + width indent)
  | none =>
    (indent? cs).map fun indent =>
      let chomp := if indent.isSome then chomp? (cs.drop 1) else none
      (⟨chomp.getD .clip, indent⟩, width indent + width chomp)

/-- The rest of the line with the mark, and how many characters it takes with its end. There may
be a comment on it. -/
def heading? (cs : List Char) : Option (Heading × Nat) := do
  let (heading, n) ← signs? cs
  let rest := cs.drop n
  let behind := rest.dropWhile isBlank
  if behind.isEmpty || behind.head?.any (fun c => c == '#' || isBreak c) then
    return (heading, n + lineLength rest)
  else none

/-! ### Lines -/

/-- Empty lines: their ends, how many characters they take with the blanks in front of the next
line, and the column there. -/
structure Empties where
  ends : List Char
  length : Nat
  column : Nat
  /-- The widest of all the indentations. -/
  widest : Nat
deriving Repr, DecidableEq

/-- The empty lines at the front of a text whose lines are indented by `indent` columns. A tab may
not stand in the indentation. -/
def empties? (indent : Option Nat) (cs : List Char) : Option Empties :=
  let blanks := cs.takeWhile (· == ' ')
  let column := match indent with
    | some n => min n blanks.length
    | none => blanks.length
  match _h : cs.drop column with
  | '\t' :: _ => if indent.all (column < ·) then none else some ⟨[], column, column, column⟩
  | c :: _ =>
    if isBreak c then
      let length := lineLength cs
      (empties? indent (cs.drop (max length 1))).map fun more =>
        ⟨breaks (cs.take length) ++ more.ends, length + more.length, more.column,
          max column more.widest⟩
    else some ⟨[], column, column, column⟩
  | [] => some ⟨[], column, column, column⟩
termination_by cs.length
decreasing_by
  have := congrArg List.length _h
  simp at this ⊢
  omega

/-- A line of a block scalar. -/
structure Line where
  /-- The ends of the empty lines in front of it. -/
  before : List Char
  text : List Char
  /-- The end of the line itself; the last line of a document may have none. -/
  close : List Char
deriving Repr, DecidableEq

/-- The lines of a block scalar that are indented by `indent` columns, the ends of the empty lines
behind them, and how many characters all take. -/
def lines? (indent : Nat) (cs : List Char) (front : Empties) :
    Option (List Line × List Char × Nat) :=
  let rest := cs.drop front.length
  if front.column ≠ indent then some ([], front.ends, front.length)
  else
    match _h : rest with
    | [] => some ([], front.ends, front.length)
    | _ :: _ =>
      let text := rest.takeWhile (!isBreak ·)
      let length := max 1 (lineLength rest)
      let behind := rest.drop length
      match empties? (some indent) behind with
      | none => none
      | some next =>
        (lines? indent behind next).map fun (lines, ends, n) =>
          (⟨front.ends, text, breaks (rest.take length)⟩ :: lines, ends,
            front.length + length + n)
termination_by cs.length
decreasing_by
  have := congrArg List.length _h
  simp [rest] at this ⊢
  omega

/-! ### Text -/

/-- Does a line begin with a blank? Such a line is not joined to others. -/
def Line.isMoreIndented (l : Line) : Bool :=
  l.text.head?.any isBlank

/-- What stands between two lines in the text of a folded scalar. -/
def joint (a b : Line) : List Char :=
  if a.close = ['\n'] ∧ !a.isMoreIndented ∧ !b.isMoreIndented then
    if b.before.isEmpty then [' '] else b.before
  else a.close ++ b.before

/-- The lines without the line ends in front of them and behind them. -/
def joined (literal : Bool) : List Line → List Char
  | [] => []
  | [l] => l.text
  | a :: b :: ls =>
    a.text ++ (if literal then a.close ++ b.before else joint a b) ++ joined literal (b :: ls)

/-- The text that lines make; `ends` are those of the empty lines behind them. -/
def textOf (literal : Bool) (chomp : Chomp) (lines : List Line) (ends : List Char) : List Char :=
  let front := (lines.head?.map (·.before)).getD []
  let close := (lines.getLast?.map (·.close)).getD []
  front ++ joined literal lines ++
    match chomp with
    | .strip => []
    | .clip => close
    | .keep => close ++ ends

/-- The text of a block scalar behind its mark, and how many characters it takes. Unless its
heading says how far its lines are indented behind the `outer` columns of what it stands in, its
first line does. -/
def text? (literal : Bool) (outer : Int) (cs : List Char) : Option (List Char × Nat) := do
  let (heading, n) ← heading? cs
  let body := cs.drop n
  let said := heading.indent.map fun i => if 0 ≤ outer then outer.toNat + i else i
  let front ← empties? said body
  let indent := said.getD (max (max front.widest (outer + 1).toNat) 1)
  let (lines, ends, m) ← lines? indent body front
  return (textOf literal heading.chomp lines ends, n + m)

end TemplateCheck.Yaml.Block
