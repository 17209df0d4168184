import TemplateCheck.Toml.Scalar
import TemplateCheck.Toml.Table
import TemplateCheck.Toml.Text

/-!
# Reading TOML

* `skipFiller?`, `afterLine?` — what may stand between values, and behind an entry or a header;
* `path?` — a dotted key;
* `value?` — one value, with at most so many containers inside one another;
* `line?` — one line of a document;
* `read?` — a whole text as a table.

Each of these takes its part off the front of a text and yields the rest.
-/

namespace TemplateCheck.Toml.Reader

/-! ### Blanks and comments -/

/-- The text behind leading blanks. -/
def skipBlanks (cs : List Char) : List Char :=
  cs.dropWhile isBlank

/-- The text behind a comment, if there is one. -/
def skipComment (cs : List Char) : List Char :=
  match cs with
  | '#' :: cs => cs.dropWhile isPlain
  | cs => cs

/-- The text behind blanks, comments and line ends; no other control character may stand there.
Each round takes at least one character. -/
def skipFiller? : Nat → List Char → Option (List Char)
  | 0, _ => none
  | fuel + 1, cs =>
    let cs := skipBlanks cs
    let rest := skipComment cs
    match lineEnd? rest with
    | some n => skipFiller? fuel (rest.drop n)
    | none => if rest.length < cs.length ∧ !rest.isEmpty then none else some rest

/-- The text behind the rest of a line, on which there may be a comment. -/
def afterLine? (cs : List Char) : Option (List Char) :=
  let rest := skipComment (skipBlanks cs)
  match lineEnd? rest with
  | some n => some (rest.drop n)
  | none => if rest.isEmpty then some [] else none

/-! ### Keys -/

/-- The characters of a key without quotes. -/
def isBareChar (c : Char) : Bool :=
  c.isAlphanum || c == '_' || c == '-'

/-- One part of a dotted key. -/
def keyPart? (cs : List Char) : Option (String × List Char) :=
  match quote? cs with
  | some q =>
    if q.long then none else (text? q cs).map fun (s, n) => (s, cs.drop n)
  | none =>
    let name := cs.takeWhile isBareChar
    if name.isEmpty then none else some (String.ofList name, cs.drop name.length)

/-- The parts of a dotted key, with blanks around the dots. -/
def keyParts? : Nat → List Char → Option (List String × List Char)
  | 0, _ => none
  | fuel + 1, cs =>
    match keyPart? cs with
    | none => none
    | some (part, rest) =>
      match skipBlanks rest with
      | '.' :: more =>
        (keyParts? fuel (skipBlanks more)).map fun (parts, rest) => (part :: parts, rest)
      | more => some ([part], more)

/-- How many containers may stand inside one another, and how many parts a key may have in front
of its last one. -/
def maxDepth : Nat := 80

/-- A dotted key: the path to a table, and the key there. -/
def path? (cs : List Char) : Option (List String × String × List Char) :=
  match keyParts? (cs.length + 1) cs with
  | none => none
  | some (parts, rest) =>
    match parts.getLast? with
    | none => none
    | some key =>
      if maxDepth < parts.dropLast.length then none else some (parts.dropLast, key, rest)

/-! ### Values -/

/-- The characters that end a value without quotes and brackets. -/
def isScalarEnd (c : Char) : Bool :=
  isBlank c || c == '\n' || c == '\r' || c == ',' || c == ']' || c == '\x7d' || c == '#'

/-- A value without quotes and brackets. A date and a time may have a space between them. -/
def plain? (cs : List Char) : Option (Value × List Char) :=
  let front := cs.takeWhile (!isScalarEnd ·)
  let rest := cs.drop front.length
  match date? front, rest with
  | some (_, []), ' ' :: more =>
    let time := more.takeWhile (!isScalarEnd ·)
    if time.isEmpty then (scalar? front).map fun v => (v, rest)
    else (scalar? (front ++ ' ' :: time)).map fun v => (v, more.drop time.length)
  | _, _ => (scalar? front).map fun v => (v, rest)

/-- A reader of values. -/
abbrev ValueReader := List Char → Option (Value × List Char)

/-- The items of an array behind its bracket, each read by `item`, after those already read (last
one first). There may be a comma behind the last one. -/
def items? (item : ValueReader) (done : List Value) : Nat → ValueReader
  | 0, _ => none
  | fuel + 1, cs =>
    match skipFiller? (cs.length + 1) cs with
    | none => none
    | some (']' :: rest) => some (.array done.reverse, rest)
    | some cs =>
      match item cs with
      | none => none
      | some (v, rest) =>
        match skipFiller? (rest.length + 1) rest with
        | some (',' :: rest) => items? item (v :: done) fuel rest
        | some (']' :: rest) => some (.array (v :: done).reverse, rest)
        | _ => none

/-- A key and its value. -/
def entry? (item : ValueReader) (cs : List Char) :
    Option (List String × String × Value × List Char) :=
  match path? cs with
  | none => none
  | some (path, key, rest) =>
    match rest with
    | '=' :: rest => (item (skipBlanks rest)).map fun (v, rest) => (path, key, v, rest)
    | _ => none

/-- The entries of a table between braces, after those already read. There may be a comma behind
the last one. -/
def entries? (item : ValueReader) (done : Entries) : Nat → ValueReader
  | 0, _ => none
  | fuel + 1, cs =>
    match skipFiller? (cs.length + 1) cs with
    | none => none
    | some ('\x7d' :: rest) => some (done.value, rest)
    | some cs =>
      match entry? item cs with
      | none => none
      | some (path, key, v, rest) =>
        match put? path key v .header done, skipFiller? (rest.length + 1) rest with
        | some done, some (',' :: rest) => entries? item done fuel rest
        | some done, some ('\x7d' :: rest) => some (done.value, rest)
        | _, _ => none

/-- The value at the front of a text, with at most `depth` containers inside one another. -/
def value? (depth : Nat) (cs : List Char) : Option (Value × List Char) :=
  match quote? cs with
  | some q => (text? q cs).map fun (s, n) => (.text s, cs.drop n)
  | none =>
    match depth, cs with
    | 0, '[' :: _ => none
    | 0, '\x7b' :: _ => none
    | depth + 1, '[' :: cs => items? (value? depth) [] (cs.length + 1) cs
    | depth + 1, '\x7b' :: cs => entries? (value? depth) [] (cs.length + 1) cs
    | _, cs => plain? cs

/-! ### Documents -/

/-- The tables so far, and the header under which entries stand. -/
structure State where
  root : Entries
  header : List String

/-- One line of a document: a header, or an entry. -/
def line? (s : State) (cs : List Char) : Option (State × List Char) :=
  match cs with
  | '[' :: '[' :: cs =>
    match path? (skipBlanks cs) with
    | some (path, key, ']' :: ']' :: rest) =>
      (openSeries? path key s.root).map fun root => (⟨root, path ++ [key]⟩, rest)
    | _ => none
  | '[' :: cs =>
    match path? (skipBlanks cs) with
    | some (path, key, ']' :: rest) =>
      (openTable? path key s.root).map fun root => (⟨root, path ++ [key]⟩, rest)
    | _ => none
  | cs =>
    match entry? (value? maxDepth) cs with
    | none => none
    | some (path, key, v, rest) =>
      (descend? false (put? path key v) s.header .header s.root).map fun root =>
        ({ s with root }, rest)

/-- The lines of a document. Each round takes at least one character. -/
def lines? (s : State) : Nat → List Char → Option Value
  | 0, _ => none
  | fuel + 1, cs =>
    match skipFiller? (cs.length + 1) cs with
    | none => none
    | some [] => some s.root.value
    | some cs =>
      match line? s cs with
      | none => none
      | some (s, rest) =>
        match afterLine? rest with
        | none => none
        | some rest => lines? s fuel rest

end Reader

/-- The table that a whole text holds. There may be a byte order mark in front of it. -/
def read? (text : String) : Option Value :=
  let cs := text.toList
  let cs := if cs.head? = some '\ufeff' then cs.drop 1 else cs
  Reader.lines? ⟨[], []⟩ (cs.length + 1) cs

end TemplateCheck.Toml
