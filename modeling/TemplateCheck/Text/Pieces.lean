/-!
# Trimming and cutting texts

The two notions of white space that the library uses, trimming by a class of characters, and a text
cut into pieces, in the three ways that templates know.

* `isBlank` — the characters with the Unicode property White_Space;
* `isAsciiBlank` — the five blanks of the template expression grammar;
* `trimStart`, `trimEnd`, `trim` — removal of a leading or trailing run of a class;
* `splitAt` — a text cut at every occurrence of a separator;
* `words`, `wordsUpTo` — at runs of blanks;
* `lines` — at line ends.
-/

namespace TemplateCheck.Text

/-! ### Classes -/

/-- The characters with the Unicode property White_Space. -/
def isBlank (c : Char) : Bool :=
  let n := c.toNat
  (9 ≤ n && n ≤ 13) || n == 0x20 || n == 0x85 || n == 0xA0 || n == 0x1680
    || (0x2000 ≤ n && n ≤ 0x200A) || n == 0x2028 || n == 0x2029 || n == 0x202F
    || n == 0x205F || n == 0x3000

/-- Space, tab, line feed, form feed and carriage return. -/
def isAsciiBlank (c : Char) : Bool :=
  c == ' ' || c == '\t' || c == '\n' || c == '\x0c' || c == '\r'

/-! ### Trimming -/

/-- A list without its leading run of characters in the class `p`. -/
def trimStart (p : Char → Bool) (cs : List Char) : List Char :=
  cs.dropWhile p

/-- A list without its trailing run of characters in the class `p`. -/
def trimEnd (p : Char → Bool) : List Char → List Char
  | [] => []
  | c :: cs =>
    match trimEnd p cs with
    | [] => if p c then [] else [c]
    | rest => c :: rest

/-- A text without its leading and trailing runs of characters in the class `p`. -/
def trimBy (p : Char → Bool) (s : String) : String :=
  String.ofList (trimEnd p (trimStart p s.toList))

/-- A text without leading and trailing blanks. -/
def trim (s : String) : String :=
  trimBy isBlank s

/-! ### At a separator -/

/-- The pieces between the occurrences of a separator. The next `skip` characters belong to an
occurrence. -/
def pieces (separator : List Char) (skip : Nat) : List Char → List (List Char)
  | [] => [[]]
  | c :: cs =>
    match skip with
    | n + 1 => pieces separator n cs
    | 0 =>
      if separator.isPrefixOf (c :: cs) then [] :: pieces separator (separator.length - 1) cs
      else
        match pieces separator 0 cs with
        | piece :: rest => (c :: piece) :: rest
        | [] => [[c]]

/-- A text cut at every occurrence of a separator. An empty one occurs around every
character. -/
def splitAt (separator text : List Char) : List (List Char) :=
  if separator.isEmpty then [] :: text.map ([·]) ++ [[]] else pieces separator 0 text

/-- Only so many pieces: the last one holds the rest of the text. -/
def upTo (limit : Nat) (separator : List Char) (ps : List (List Char)) : List (List Char) :=
  if limit = 0 then []
  else if ps.length ≤ limit then ps
  else ps.take (limit - 1) ++ [List.intercalate separator (ps.drop (limit - 1))]

/-! ### At blanks -/

/-- The runs of characters that are no blanks; `word` holds the one under way, last character
first. -/
def wordsFrom (word : List Char) : List Char → List (List Char)
  | [] => if word.isEmpty then [] else [word.reverse]
  | c :: cs =>
    if isBlank c then
      if word.isEmpty then wordsFrom [] cs else word.reverse :: wordsFrom [] cs
    else wordsFrom (c :: word) cs

/-- The words of a text. -/
def words (text : List Char) : List (List Char) :=
  wordsFrom [] text

/-- At most so many words: the last one holds the rest of the text. Blanks at the end of the
text count as a word of their own. -/
def wordsUpTo : Nat → List Char → List (List Char)
  | 0, _ => []
  | limit + 1, text =>
    let start := text.dropWhile isBlank
    if start.isEmpty then if text.isEmpty then [] else [text]
    else if limit = 0 then [start]
    else start.takeWhile (!isBlank ·) :: wordsUpTo limit (start.dropWhile (!isBlank ·))

/-! ### At line ends -/

/-- A line without the carriage return before its end. -/
def dropReturn (line : List Char) : List Char :=
  if line.getLast? = some '\r' then line.dropLast else line

/-- The lines of a text, which end in a line feed or a carriage return and a line feed. -/
def lines (text : List Char) : List (List Char) :=
  let ps := pieces ['\n'] 0 text
  let open_ := ps.getLast?.getD []
  ps.dropLast.map dropReturn ++ (if open_.isEmpty then [] else [open_])

end TemplateCheck.Text
