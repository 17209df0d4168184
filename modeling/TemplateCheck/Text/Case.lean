import TemplateCheck.Text.Pieces
import TemplateCheck.Text.CaseTable

/-!
# Letter case

Upper and lower case of whole texts, in all scripts.

* `Case.upper`, `Case.lower` — a text in one case; a character may become several;
* `Case.title` — every word in lower case with its first letter in upper case;
* `Case.capitalize` — a text in lower case with its first letter in upper case;
* `Case.isLower`, `Case.isUpper` — the case of a character.

The Greek letter sigma has a lower case of its own at the end of a word.
-/

namespace TemplateCheck.Text.Case

/-- The characters that a character becomes under a table of shifts and one of words. -/
def mapped (shifts : List Shift) (words : List (Nat × List Nat)) (c : Char) : List Char :=
  match words.lookup c.toNat with
  | some word => word.map Char.ofNat
  | none =>
    match shifts.find? (·.run.contains c.toNat) with
    | some s => [Char.ofNat (c.toNat + s.distance).toNat]
    | none => [c]

/-- The upper case of a character. -/
def upperChar (c : Char) : List Char :=
  if c.toNat < 128 then [c.toUpper] else mapped upperShifts upperWords c

/-- The lower case of a character that stands by itself. -/
def lowerChar (c : Char) : List Char :=
  if c.toNat < 128 then [c.toLower] else mapped lowerShifts lowerWords c

/-- Is it a lower-case character? -/
def isLower (c : Char) : Bool :=
  lowercaseRuns.any (·.contains c.toNat)

/-- Is it an upper-case character? -/
def isUpper (c : Char) : Bool :=
  uppercaseRuns.any (·.contains c.toNat)

/-- Does the character have a case? -/
def isCased (c : Char) : Bool :=
  isLower c || isUpper c || titlecaseRuns.any (·.contains c.toNat)

/-- Is the character passed over when the end of a word is looked for? -/
def isIgnorable (c : Char) : Bool :=
  ignorableRuns.any (·.contains c.toNat)

/-- Does a cased character come next, apart from characters that are passed over? -/
def meetsCased (cs : List Char) : Bool :=
  match cs.dropWhile isIgnorable with
  | [] => false
  | c :: _ => isCased c

/-- A text in lower case; `before` holds the characters in front of it, the last one first. -/
def lowerFrom (before : List Char) : List Char → List Char
  | [] => []
  | c :: cs =>
    let here :=
      if c = 'Σ' then if meetsCased before && !meetsCased cs then ['ς'] else ['σ']
      else lowerChar c
    here ++ lowerFrom (c :: before) cs

/-- A text in lower case. -/
def lower (s : String) : String :=
  String.ofList (lowerFrom [] s.toList)

/-- A text in upper case. -/
def upper (s : String) : String :=
  String.ofList (s.toList.flatMap upperChar)

/-- Is it one of the ASCII punctuation marks? -/
def isPunctuation (c : Char) : Bool :=
  let n := c.toNat
  (0x21 ≤ n && n ≤ 0x2F) || (0x3A ≤ n && n ≤ 0x40) || (0x5B ≤ n && n ≤ 0x60)
    || (0x7B ≤ n && n ≤ 0x7E)

/-- Every word with its first letter in upper case; `start` tells that a word begins here. -/
def titleFrom (start : Bool) : List Char → List Char
  | [] => []
  | c :: cs =>
    if isPunctuation c || isBlank c then c :: titleFrom true cs
    else (if start then upperChar c else lowerChar c) ++ titleFrom false cs

/-- A text in which every word begins with an upper-case letter. Blanks and ASCII punctuation
marks stand between words. -/
def title (s : String) : String :=
  String.ofList (titleFrom true s.toList)

/-- A text that begins with an upper-case letter and goes on in lower case. -/
def capitalize (s : String) : String :=
  match s.toList with
  | [] => ""
  | c :: cs => String.ofList (upperChar c ++ lowerFrom [] cs)

end TemplateCheck.Text.Case
