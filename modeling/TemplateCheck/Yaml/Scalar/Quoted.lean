import TemplateCheck.Yaml.Char

/-!
# Quoted scalars

A quoted scalar may go on over several lines, which are joined. Between single quotes a quote is
written twice; between double quotes a backslash begins an escape.

* `escape?` — the character of an escape;
* `piece` — what stands at the front of the rest of a quoted scalar;
* `text?` — the text of a quoted scalar, up to its closing quote.
-/

namespace TemplateCheck.Yaml.Quoted

/-! ### Escapes -/

/-- The value of a hexadecimal digit. -/
def hexDigit? (c : Char) : Option Nat :=
  if c.isDigit then some (c.toNat - '0'.toNat)
  else if 'a' ≤ c ∧ c ≤ 'f' then some (c.toNat - 'a'.toNat + 10)
  else if 'A' ≤ c ∧ c ≤ 'F' then some (c.toNat - 'A'.toNat + 10)
  else none

/-- The value of hexadecimal digits. -/
def hexNumber? (cs : List Char) : Option Nat :=
  cs.foldlM (fun n c => (hexDigit? c).map (n * 16 + ·)) 0

/-- The character that an escape of one letter stands for. -/
def letterEscape? (c : Char) : Option Char :=
  [('0', '\x00'), ('a', '\x07'), ('b', '\x08'), ('t', '\t'), ('\t', '\t'), ('n', '\n'),
    ('v', '\x0b'), ('f', '\x0c'), ('r', '\r'), ('e', '\x1b'), (' ', ' '), ('"', '"'), ('/', '/'),
    ('\\', '\\'), ('N', '\u0085'), ('_', '\u00a0'), ('L', '\u2028'), ('P', '\u2029')].lookup c

/-- How many digits the letter of an escape by number has behind it. -/
def numberEscape? (c : Char) : Option Nat :=
  [('x', 2), ('u', 4), ('U', 8)].lookup c

/-- The character of an escape behind its backslash, and how many characters it takes. -/
def escape? : List Char → Option (Char × Nat)
  | [] => none
  | c :: cs =>
    match letterEscape? c, numberEscape? c with
    | some e, _ => some (e, 1)
    | none, some width => do
      let digits := cs.take width
      let n ← if digits.length = width then hexNumber? digits else none
      if n.isValidChar then some (Char.ofNat n, 1 + width) else none
    | none, none => none

/-! ### Pieces -/

/-- What stands at the front of the rest of a quoted scalar. -/
inductive Piece where
  /-- The closing quote. -/
  | close
  /-- Some characters of the text, written with so many. -/
  | chars (text : List Char) (length : Nat)
  /-- Nothing that may stand there. -/
  | bad
deriving Repr, DecidableEq

/-- A gap, unless a mark between documents follows it. The text is what the gap becomes. -/
def gapPiece (text gap rest : List Char) (length : Nat) : Piece :=
  if endsLine gap && isMarker rest then .bad else .chars text length

/-- The piece at the front of a text `c :: cs`. -/
def piece (double : Bool) (c : Char) (cs : List Char) : Piece :=
  if isGap c then
    let gap := c :: cs.takeWhile isGap
    gapPiece (folded gap) gap (cs.dropWhile isGap) gap.length
  else if c = '\x27' ∧ !double then
    if cs.head? = some '\x27' then .chars ['\x27'] 2 else .close
  else if c = '"' ∧ double then .close
  else if c = '\\' ∧ double then
    match escape? cs with
    | some (e, n) => .chars [e] (1 + n)
    | none =>
      if cs.head?.any isBreak then
        let gap := cs.takeWhile isGap
        gapPiece ((breaks gap).drop 1) gap (cs.dropWhile isGap) (1 + gap.length)
      else .bad
  else .chars [c] 1

/-- The text of a quoted scalar behind its opening quote, and how many characters it takes with
its closing quote. -/
def text? (double : Bool) : List Char → Option (List Char × Nat)
  | [] => none
  | c :: cs =>
    match piece double c cs with
    | .bad => none
    | .close => some ([], 1)
    | .chars text length =>
      (text? double (cs.drop (length - 1))).map fun (more, n) => (text ++ more, length + n)
termination_by cs => cs.length
decreasing_by rw [List.length_drop, List.length_cons]; omega

end TemplateCheck.Yaml.Quoted
