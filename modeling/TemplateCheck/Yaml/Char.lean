/-!
# Characters of YAML

The classes of characters that YAML tells apart, and what stands at the front of a text.

* `isAllowed` — the characters that a document may hold;
* `isBlank`, `isBreak`, `isGap` — blanks, line ends, and both;
* `isWordEnd` — does a text begin with a gap, or is it empty?
* `isMarker` — does a text begin with one of the marks between documents?
* `breaks`, `folded` — the line ends of a gap, and what they become when lines are joined;
* `lineLength` — how far it is to the next line.
-/

namespace TemplateCheck.Yaml

/-! ### Classes -/

/-- The characters that a document may hold: no control characters but tab and line ends. -/
def isAllowed (c : Char) : Bool :=
  let n := c.toNat
  n == 0x09 || n == 0x0A || n == 0x0D || (0x20 ≤ n && n ≤ 0x7E) || n == 0x85
    || (0xA0 ≤ n && n ≤ 0xD7FF) || (0xE000 ≤ n && n ≤ 0xFFFD) || 0x10000 ≤ n

/-- Space and tab. -/
def isBlank (c : Char) : Bool :=
  c == ' ' || c == '\t'

/-- The separators of lines and of paragraphs, which are kept when lines are joined. -/
def isSeparator (c : Char) : Bool :=
  c == '\u2028' || c == '\u2029'

/-- The characters that end a line. -/
def isBreak (c : Char) : Bool :=
  c == '\n' || c == '\r' || c == '\u0085' || isSeparator c

/-- The characters between words. -/
def isGap (c : Char) : Bool :=
  isBlank c || isBreak c

/-- The characters of names, of anchors for instance. -/
def isNameChar (c : Char) : Bool :=
  c.isAlphanum || c == '_' || c == '-'

/-- The characters that mean something of their own between brackets. -/
def isFlowSign (c : Char) : Bool :=
  c == ',' || c == '[' || c == ']' || c == '\x7b' || c == '\x7d'

/-- The characters that no plain scalar begins with, except that some may if what follows them
lets them. -/
def isIndicator (c : Char) : Bool :=
  isFlowSign c || c == '-' || c == '?' || c == ':' || c == '#' || c == '&' || c == '*' || c == '!'
    || c == '|' || c == '>' || c == '\x27' || c == '"' || c == '%' || c == '@' || c == '\x60'

/-! ### Fronts of texts -/

/-- Does a text begin with a gap, or is it empty? -/
def isWordEnd : List Char → Bool
  | [] => true
  | c :: _ => isGap c

/-- Is the mark `s` at the front of a text, with nothing directly behind it? -/
def startsWithMark (s cs : List Char) : Bool :=
  s.isPrefixOf cs && isWordEnd (cs.drop s.length)

/-- The mark in front of a document. -/
def documentStart : List Char := ['-', '-', '-']

/-- The mark behind a document. -/
def documentEnd : List Char := ['.', '.', '.']

/-- Does a text begin with one of the marks between documents? -/
def isMarker (cs : List Char) : Bool :=
  startsWithMark documentStart cs || startsWithMark documentEnd cs

/-! ### Gaps and lines -/

/-- The line ends of a text. All but the separators become line feeds. -/
def breaks : List Char → List Char
  | '\r' :: '\n' :: cs => '\n' :: breaks cs
  | c :: cs =>
    if isSeparator c then c :: breaks cs
    else if isBreak c then '\n' :: breaks cs
    else breaks cs
  | [] => []

/-- What a gap between two words becomes. One line end is a space, of several the first is
dropped. -/
def folded (gap : List Char) : List Char :=
  match breaks gap with
  | [] => gap
  | '\n' :: more => if more.isEmpty then [' '] else more
  | ends => ends

/-- The number of characters up to the next line: those that stay on this line, and those of its
end. -/
def lineLength (cs : List Char) : Nat :=
  let line := cs.takeWhile (!isBreak ·)
  match cs.drop line.length with
  | '\r' :: '\n' :: _ => line.length + 2
  | _ :: _ => line.length + 1
  | [] => line.length

/-- Does a text end at the end of a line? -/
def endsLine (cs : List Char) : Bool :=
  cs.getLast?.any isBreak

/-- The column at the end of a text that has a line end in it. -/
def lastColumn (cs : List Char) : Nat :=
  (cs.reverse.takeWhile (!isBreak ·)).length

end TemplateCheck.Yaml
