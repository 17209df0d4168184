/-!
# Texts of TOML

A text stands between quotes. Between single quotes all is as it is written, between double quotes
a backslash begins an escape. Three quotes enclose a text that may go on over several lines.

* `isPlain`, `gap` — the characters that may stand anywhere, and what may stand between values;
* `escape?` — the character of an escape;
* `Quote`, `text?` — the kinds of texts, and a text up to its closing quotes.

What takes characters off the front of a text says how many.
-/

namespace TemplateCheck.Toml

/-! ### Characters -/

/-- Space and tab. -/
def isBlank (c : Char) : Bool :=
  c == ' ' || c == '\t'

/-- The characters that may stand in comments and texts: no control characters but the tab. -/
def isPlain (c : Char) : Bool :=
  c == '\t' || (0x20 ≤ c.toNat && c.toNat ≤ 0x7E) || 0x80 ≤ c.toNat

/-- The length of the line end at the front of a text. -/
def lineEnd? : List Char → Option Nat
  | '\n' :: _ => some 1
  | '\r' :: '\n' :: _ => some 2
  | _ => none

/-- The value of a hexadecimal digit. -/
def hexDigit? (c : Char) : Option Nat :=
  if c.isDigit then some (c.toNat - '0'.toNat)
  else if 'a' ≤ c ∧ c ≤ 'f' then some (c.toNat - 'a'.toNat + 10)
  else if 'A' ≤ c ∧ c ≤ 'F' then some (c.toNat - 'A'.toNat + 10)
  else none

/-! ### Escapes -/

/-- The character that an escape of one letter stands for. -/
def letterEscape? (c : Char) : Option Char :=
  [('b', '\x08'), ('t', '\t'), ('n', '\n'), ('f', '\x0c'), ('r', '\r'), ('e', '\x1b'),
    ('"', '"'), ('\\', '\\')].lookup c

/-- How many digits the letter of an escape by number has behind it. -/
def numberEscape? (c : Char) : Option Nat :=
  [('x', 2), ('u', 4), ('U', 8)].lookup c

/-- The character of an escape behind its backslash. -/
def escape? : List Char → Option (Char × Nat)
  | [] => none
  | c :: cs =>
    match letterEscape? c, numberEscape? c with
    | some e, _ => some (e, 1)
    | none, some width => do
      let digits := cs.take width
      let n ←
        if digits.length = width then
          digits.foldlM (fun n d => (hexDigit? d).map (n * 16 + ·)) 0
        else none
      if n.isValidChar then some (Char.ofNat n, 1 + width) else none
    | none, none => none

/-- The blanks and line ends at the front of a text. -/
def gap : List Char → Nat
  | '\r' :: '\n' :: cs => gap cs + 2
  | c :: cs => if isBlank c || c == '\n' then gap cs + 1 else 0
  | [] => 0

/-! ### Texts -/

/-- How a text is enclosed. -/
structure Quote where
  /-- Between double quotes, with escapes? -/
  double : Bool
  /-- Between three of them? -/
  long : Bool
deriving Repr, DecidableEq

/-- The character that encloses a text. -/
def Quote.mark (q : Quote) : Char :=
  if q.double then '"' else '\x27'

/-- What stands at the front of the rest of a text. -/
inductive Piece where
  /-- The closing quotes, with characters of the text among them. -/
  | close (text : List Char) (length : Nat)
  /-- Some characters of the text. -/
  | chars (text : List Char) (length : Nat)
  /-- Nothing that may stand there. -/
  | bad
deriving Repr, DecidableEq

/-- An escape behind its backslash. In a long text a backslash at the end of a line takes away the
blanks and line ends behind it. -/
def escapePiece (long : Bool) (cs : List Char) : Piece :=
  match escape? cs with
  | some (c, n) => .chars [c] (1 + n)
  | none =>
    if long ∧ (lineEnd? (cs.dropWhile isBlank)).isSome then .chars [] (1 + gap cs) else .bad

/-- The piece at the front of a text `c :: cs`. One or two quotes may stand anywhere in a long
text, also directly in front of those that close it. -/
def piece (q : Quote) (c : Char) (cs : List Char) : Piece :=
  if c = q.mark then
    if !q.long then .close [] 1
    else
      let run := min 5 (1 + (cs.takeWhile (· == q.mark)).length)
      if run < 3 then .chars [c] 1 else .close (List.replicate (run - 3) c) run
  else if c = '\\' ∧ q.double then escapePiece q.long cs
  else if isPlain c then .chars [c] 1
  else
    match lineEnd? (c :: cs) with
    | some n => if q.long then .chars ((c :: cs).take n) n else .bad
    | none => .bad

/-- A text behind its opening quotes. -/
def body? (q : Quote) : List Char → Option (List Char × Nat)
  | [] => none
  | c :: cs =>
    match piece q c cs with
    | .bad => none
    | .close text length => some (text, length)
    | .chars text length =>
      (body? q (cs.drop (length - 1))).map fun (more, n) => (text ++ more, length + n)
termination_by cs => cs.length
decreasing_by rw [List.length_drop, List.length_cons]; omega

/-- The kind of the text that begins at the front of a text. -/
def quote? : List Char → Option Quote
  | '"' :: '"' :: '"' :: _ => some ⟨true, true⟩
  | '\x27' :: '\x27' :: '\x27' :: _ => some ⟨false, true⟩
  | '"' :: _ => some ⟨true, false⟩
  | '\x27' :: _ => some ⟨false, false⟩
  | _ => none

/-- The text at the front of a text. A line end directly behind three quotes does not belong to
it. -/
def text? (q : Quote) (cs : List Char) : Option (String × Nat) :=
  let opening := if q.long then 3 else 1
  let start := if q.long then opening + (lineEnd? (cs.drop opening)).getD 0 else opening
  (body? q (cs.drop start)).map fun (text, n) => (String.ofList text, start + n)

end TemplateCheck.Toml
