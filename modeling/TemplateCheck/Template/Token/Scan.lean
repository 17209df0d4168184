import TemplateCheck.Template.Token.Numeral
import TemplateCheck.Text.Pieces

/-!
# Reading tokens

A template is text with tags in it. Outside of tags the reader looks for the next mark that opens
one; inside it reads the signs, names, numbers and texts of an expression.

* `Delimiters` — the marks around the expressions of a template;
* `marker?`, `find` — the marks that open tags;
* `Mode` — where in a template the reader is;
* `outside`, `inside` — one step of the reader;
* `Delimiters.scan` — all the tokens of a template.

A minus sign next to a mark removes the blanks on that side of the tag. What follows a comment or a
raw block is treated like what follows a tag.
-/

namespace TemplateCheck.Template

open Text (isBlank isAsciiBlank trimStart trimEnd)

/-- The marks around an expression. -/
structure Delimiters where
  left : List Char
  right : List Char
deriving Repr, DecidableEq

/-- The usual marks. -/
def Delimiters.standard : Delimiters where
  left := ['\x7b', '\x7b']
  right := ['\x7d', '\x7d']

namespace Token

/-! ### Marks -/

/-- What a mark opens. -/
inductive Marker where
  | variable
  | block
  | comment
deriving Repr, DecidableEq

/-- The mark in front of a statement. -/
def blockStart : List Char := ['\x7b', '%']

/-- The mark behind a statement. -/
def blockEnd : List Char := ['%', '\x7d']

/-- The mark in front of a comment. -/
def commentStart : List Char := ['\x7b', '#']

/-- The mark behind a comment. -/
def commentEnd : List Char := ['#', '\x7d']

/-- The longest mark at the front of a text, and its length. -/
def marker? (d : Delimiters) (cs : List Char) : Option (Marker × Nat) :=
  let fixed : Option (Marker × Nat) :=
    if blockStart.isPrefixOf cs then some (.block, 2)
    else if commentStart.isPrefixOf cs then some (.comment, 2)
    else none
  if d.left.isPrefixOf cs then
    match fixed with
    | some (m, n) => if d.left.length < n then some (m, n) else some (.variable, d.left.length)
    | none => some (.variable, d.left.length)
  else fixed

/-- What a sign next to a mark does to the blanks there. -/
inductive Control where
  | none
  | keep
  | remove
deriving Repr, DecidableEq

/-- The sign at the front of a text. -/
def control : List Char → Control
  | '-' :: _ => .remove
  | '+' :: _ => .keep
  | _ => .none

/-- The number of characters of a sign. -/
def Control.length : Control → Nat
  | .none => 0
  | _ => 1

/-- The text in front of the first mark, and the mark. -/
def find (d : Delimiters) : List Char → List Char × Option (Marker × Nat)
  | [] => ([], none)
  | c :: cs =>
    match marker? d (c :: cs) with
    | some m => ([], some m)
    | none =>
      let (front, m) := find d cs
      (c :: front, m)

/-- The text in front of the first occurrence of a mark. -/
def before? (mark : List Char) : List Char → Option (List Char)
  | [] => if mark.isEmpty then some [] else none
  | c :: cs =>
    if mark.isPrefixOf (c :: cs) then some [] else (before? mark cs).map (c :: ·)

/-! ### Raw blocks -/

/-- The rest of a tag that has nothing but a word in it: the sign behind the word, and how many
characters the rest of the tag has. -/
def wordTag? (word : String) (cs : List Char) : Option (Control × Nat) :=
  let start := cs.dropWhile isAsciiBlank
  if word.toList.isPrefixOf start then
    let rest := (start.drop word.length).dropWhile isAsciiBlank
    let sign := control rest
    let behind := rest.drop sign.length
    if blockEnd.isPrefixOf behind then some (sign, cs.length - behind.length + blockEnd.length)
    else none
  else none

/-- The text of a raw block: the text, the signs in front of and behind the word that closes the
block, and how many characters the closing tag has. -/
def rawText? : List Char → Option (List Char × Control × Control × Nat)
  | [] => none
  | c :: cs =>
    let closing : Option (Control × Control × Nat) :=
      if blockStart.isPrefixOf (c :: cs) then
        let rest := cs.drop 1
        let sign := control rest
        (wordTag? "endraw" (rest.drop sign.length)).map fun (last, n) =>
          (sign, last, blockStart.length + sign.length + n)
      else none
    match closing with
    | some (first, last, n) => some ([], first, last, n)
    | none => (rawText? cs).map fun (body, close) => (c :: body, close)

/-! ### Steps -/

/-- What a tag holds. -/
inductive Tag where
  | variable
  | block
deriving Repr, DecidableEq

/-- Where the reader is. -/
inductive Mode where
  /-- Outside of tags; the blanks that come first may be to be left out. -/
  | outside (trim : Bool)
  /-- In a tag, behind so many opening brackets that are not closed yet. -/
  | inside (tag : Tag) (depth : Int)
deriving Repr, DecidableEq

/-- One step of the reader. -/
inductive Step where
  /-- Some tokens, where the reader is then, and how many characters it has read. -/
  | next (lexemes : List Lexeme) (mode : Mode) (count : Nat)
  /-- Some tokens, and why there are no more. -/
  | stop (lexemes : List Lexeme) (why : Break)
deriving Repr

/-- The number of line ends in a text. -/
def lineEnds (cs : List Char) : Nat := cs.count '\n'

/-- The token for text outside of tags, unless it is empty. -/
def dataToken (line : Nat) (cs : List Char) : List Lexeme :=
  if cs.isEmpty then [] else [⟨.data (String.ofList cs), line⟩]

/-- One step outside of tags: up to the next mark and, if it opens a comment or a raw block, to
the end of that. -/
def outside (d : Delimiters) (trim : Bool) (line : Nat) (cs : List Char) : Step :=
  let blanks := if trim then cs.takeWhile isBlank else []
  let start := cs.drop blanks.length
  let line := line + lineEnds blanks
  let (front, marker) := find d start
  match marker with
  | none => .next (dataToken line front) (.outside false) cs.length
  | some (marker, length) =>
    let behind := start.drop (front.length + length)
    let sign := control behind
    let lexemes := dataToken line (if sign = .remove then trimEnd isBlank front else front)
    let rest := behind.drop sign.length
    let count := blanks.length + front.length + length + sign.length
    let line := line + lineEnds front
    match marker with
    | .variable => .next (lexemes ++ [⟨.openVariable, line⟩]) (.inside .variable 0) count
    | .comment =>
      match before? commentEnd rest with
      | none => .stop lexemes ⟨.malformed, some line⟩
      | some comment =>
        .next lexemes (.outside (comment.getLast? = some '-'))
          (count + comment.length + commentEnd.length)
    | .block =>
      match wordTag? "raw" rest with
      | none => .next (lexemes ++ [⟨.openBlock, line⟩]) (.inside .block 0) count
      | some (after, n) =>
        let line := line + lineEnds (rest.take n)
        match rawText? (rest.drop n) with
        | none => .stop lexemes ⟨.malformed, some line⟩
        | some (body, first, last, m) =>
          let kept := if after = .remove then trimStart isBlank body else body
          let kept := if first = .remove then trimEnd isBlank kept else kept
          .next (lexemes ++ [⟨.data (String.ofList kept), line⟩]) (.outside (last = .remove))
            (count + n + body.length + m)

/-- May the character stand in a name? -/
def isNameChar (c : Char) : Bool :=
  c == '_' || c.isAlphanum

/-- The sign of two characters. -/
def longSign? (a b : Char) : Option Sign :=
  if a = '/' ∧ b = '/' then some .floor
  else if a = '*' ∧ b = '*' then some .power
  else if a = '=' ∧ b = '=' then some .equal
  else if a = '!' ∧ b = '=' then some .unequal
  else if a = '<' ∧ b = '=' then some .atMost
  else if a = '>' ∧ b = '=' then some .atLeast
  else none

/-- The sign of one character. -/
def shortSign? (c : Char) : Option Sign :=
  match c with
  | '+' => some .plus
  | '-' => some .minus
  | '*' => some .times
  | '/' => some .over
  | '%' => some .percent
  | '.' => some .dot
  | ',' => some .comma
  | ':' => some .colon
  | '~' => some .tilde
  | '|' => some .bar
  | '=' => some .assign
  | '<' => some .less
  | '>' => some .greater
  | '(' => some .openParen
  | ')' => some .closeParen
  | '[' => some .openBracket
  | ']' => some .closeBracket
  | '\x7b' => some .openBrace
  | '\x7d' => some .closeBrace
  | _ => none

/-- The characters of a quoted text up to the closing quote; `escaped` after a backslash. -/
def quoted? (quote : Char) (escaped : Bool) : List Char → Option (List Char)
  | [] => none
  | c :: cs =>
    if escaped then (quoted? quote false cs).map (c :: ·)
    else if c = quote then some []
    else (quoted? quote (c == '\\') cs).map (c :: ·)

/-- The mark that closes a tag. -/
def closing (d : Delimiters) : Tag → List Char
  | .variable => d.right
  | .block => blockEnd

/-- The end of a tag at the front of a text: the sign in front of it, and how many characters
both have. A plus sign may only stand in front of the end of a statement. -/
def end? (d : Delimiters) (tag : Tag) (cs : List Char) : Option (Control × Nat) :=
  let mark := closing d tag
  let sign := control cs
  if (sign = .remove ∨ (sign = .keep ∧ tag = .block)) ∧ mark.isPrefixOf (cs.drop 1) then
    some (sign, 1 + mark.length)
  else if mark.isPrefixOf cs then some (.none, mark.length)
  else none

/-- One step in a tag, at a character `c` that is followed by `cs`. -/
def inside (d : Delimiters) (tag : Tag) (depth : Int) (line : Nat) (c : Char)
    (cs : List Char) : Step :=
  let ending := if depth = 0 then end? d tag (c :: cs) else none
  let one (t : Token) (n : Nat) : Step := .next [⟨t, line⟩] (.inside tag depth) n
  let bad : Step := .stop [] ⟨.malformed, some line⟩
  if isAsciiBlank c then .next [] (.inside tag depth) 1
  else
    match ending with
    | some (beside, n) =>
      let token := match tag with
        | .variable => Token.closeVariable
        | .block => Token.closeBlock
      .next [⟨token, line⟩] (.outside (beside = .remove)) n
    | none =>
      match cs.head?.bind (longSign? c), shortSign? c with
      | some s, _ => one (.sign s) 2
      | none, some s => .next [⟨.sign s, line⟩] (.inside tag (depth + s.depth)) 1
      | none, none =>
        if c = '\x27' ∨ c = '"' then
          match quoted? c false cs with
          | none => bad
          | some body =>
            match Escape.decode body with
            | .ok s => one (.text s) (body.length + 2)
            | .error kind => .stop [] ⟨kind, none⟩
        else if c.isDigit then
          match Numeral.read (c :: cs) with
          | some (t, n) => one t n
          | none => bad
        else if isNameChar c then
          let name := c :: cs.takeWhile isNameChar
          one (.name (String.ofList name)) name.length
        else bad

/-- One step of the reader. -/
def step (d : Delimiters) (mode : Mode) (line : Nat) (c : Char) (cs : List Char) : Step :=
  match mode with
  | .outside trim => outside d trim line (c :: cs)
  | .inside tag depth => inside d tag depth line c cs

/-- The tokens of a text that starts on a given line. -/
def scanFrom (d : Delimiters) (mode : Mode) (line : Nat) : List Char → Lexed
  | [] => ⟨[], none⟩
  | c :: cs =>
    match step d mode line c cs with
    | .stop lexemes why => ⟨lexemes, some why⟩
    | .next lexemes mode count =>
      let line := line + lineEnds ((c :: cs).take count)
      Lexed.after lexemes (scanFrom d mode line (cs.drop (count - 1)))
termination_by cs => cs.length
decreasing_by rw [List.length_drop, List.length_cons]; omega

end Token

/-- The tokens of a template. -/
def Delimiters.scan (d : Delimiters) (source : String) : Lexed :=
  Token.scanFrom d (.outside false) 1 source.toList

end TemplateCheck.Template
