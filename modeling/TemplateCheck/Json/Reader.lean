import TemplateCheck.Json.Number

/-!
# Reading JSON

A recursive-descent reader of JSON texts.

* `Reader.string` — the rest of a string after its opening quote;
* `Reader.value` — one value, with at most `depth` containers inside one another;
* `Json.read` — a whole text as one value;
* `Model.read` — a whole text as an object, the form of a model.

A text that could still become valid is refused with `endOfText`, every other text with
`malformed`. A text that is some other value than an object is no model; a container is
refused as such when it opens, a scalar once it has been read.
-/

namespace TemplateCheck.Json.Reader

/-! ### Blanks and words -/

/-- Space, tab, line feed and carriage return. -/
def isSpace (c : Char) : Bool :=
  c == ' ' || c == '\n' || c == '\t' || c == '\r'

/-- The text after leading spaces. -/
def skipSpace (cs : List Char) : List Char :=
  cs.dropWhile isSpace

/-- The text after `word`, which must stand at its front. -/
def word : List Char → List Char → Except DecodeFault (List Char)
  | [], cs => .ok cs
  | _ :: _, [] => .error .endOfText
  | w :: ws, c :: cs => if w == c then word ws cs else .error .malformed

/-! ### Strings -/

/-- The value of a hexadecimal digit. -/
def hexDigit? (c : Char) : Option Nat :=
  if '0' ≤ c ∧ c ≤ '9' then some (c.toNat - '0'.toNat)
  else if 'a' ≤ c ∧ c ≤ 'f' then some (c.toNat - 'a'.toNat + 10)
  else if 'A' ≤ c ∧ c ≤ 'F' then some (c.toNat - 'A'.toNat + 10)
  else none

/-- The number of bytes that a text takes in UTF-8. -/
def byteCount (cs : List Char) : Nat :=
  cs.foldl (fun n c => n + c.utf8Size) 0

/-- The four hexadecimal digits at the front of a text. -/
def hexQuad : List Char → Except DecodeFault (Nat × List Char)
  | a :: b :: c :: d :: rest =>
    match hexDigit? a, hexDigit? b, hexDigit? c, hexDigit? d with
    | some a, some b, some c, some d => .ok (((a * 16 + b) * 16 + c) * 16 + d, rest)
    | _, _, _, _ => .error .malformed
  | cs => .error (if byteCount cs < 4 then .endOfText else .malformed)

/-- The character of an escape after its letter `u`: a code unit, or the first of two that
form a surrogate pair. -/
def unicodeEscape (cs : List Char) : Except DecodeFault (Char × List Char) := do
  let (first, cs) ← hexQuad cs
  if 0xDC00 ≤ first ∧ first ≤ 0xDFFF then .error .malformed
  else if first < 0xD800 ∨ 0xDFFF < first then return (Char.ofNat first, cs)
  else
    match cs with
    | [] => .error .endOfText
    | '\\' :: [] => .error .endOfText
    | '\\' :: 'u' :: cs =>
      let (second, cs) ← hexQuad cs
      if second < 0xDC00 ∨ 0xDFFF < second then .error .malformed
      else return (Char.ofNat ((first - 0xD800) * 1024 + (second - 0xDC00) + 0x10000), cs)
    | _ => .error .malformed

/-- The character of a one-letter escape. -/
def letterEscape? : Char → Option Char
  | '"' => some '"'
  | '\\' => some '\\'
  | '/' => some '/'
  | 'b' => some '\x08'
  | 'f' => some '\x0c'
  | 'n' => some '\n'
  | 'r' => some '\r'
  | 't' => some '\t'
  | _ => none

/-- The characters of a string up to its closing quote, after those already read (last one
first). Each round takes at least one character, so `fuel` characters of text are enough. -/
def stringFrom (read : List Char) : Nat → List Char → Except DecodeFault (String × List Char)
  | 0, _ => .error .endOfText
  | _ + 1, [] => .error .endOfText
  | fuel + 1, c :: cs =>
    if c == '"' then .ok (String.ofList read.reverse, cs)
    else if c == '\\' then
      match cs with
      | [] => .error .endOfText
      | 'u' :: cs =>
        match unicodeEscape cs with
        | .ok (c, cs) => stringFrom (c :: read) fuel cs
        | .error fault => .error fault
      | e :: cs =>
        match letterEscape? e with
        | some c => stringFrom (c :: read) fuel cs
        | none => .error .malformed
    else if c.toNat < 0x20 then .error .malformed
    else stringFrom (c :: read) fuel cs

/-- The rest of a string after its opening quote. -/
def string (cs : List Char) : Except DecodeFault (String × List Char) :=
  stringFrom [] (cs.length + 1) cs

/-! ### Values -/

/-- The text of the next item before the bracket or brace `close`, past the comma that all
but the first item need, or the text after `close`. -/
def nextItem (close : Char) (first : Bool) (cs : List Char) :
    Except DecodeFault (Bool × List Char) :=
  match skipSpace cs with
  | [] => .error .endOfText
  | c :: cs =>
    if c == close then .ok (false, cs)
    else if first then .ok (true, c :: cs)
    else if c == ',' then
      match skipSpace cs with
      | [] => .error .endOfText
      | c :: cs => if c == close then .error .malformed else .ok (true, c :: cs)
    else .error .malformed

/-- The items of an array up to its closing bracket, each read by `item`, after those already
read (last one first). Each round takes at least one character. -/
def items (item : List Char → Except DecodeFault (Json × List Char)) (first : Bool)
    (done : List Json) : Nat → List Char → Except DecodeFault (List Json × List Char)
  | 0, _ => .error .endOfText
  | fuel + 1, cs =>
    match nextItem ']' first cs with
    | .error fault => .error fault
    | .ok (false, cs) => .ok (done.reverse, cs)
    | .ok (true, cs) =>
      match item cs with
      | .ok (value, cs) => items item false (value :: done) fuel cs
      | .error fault => .error fault

/-- The key of a member and the text after its colon. -/
def memberKey : List Char → Except DecodeFault (String × List Char)
  | '"' :: cs =>
    match string cs with
    | .error fault => .error fault
    | .ok (key, cs) =>
      match skipSpace cs with
      | [] => .error .endOfText
      | ':' :: cs => .ok (key, cs)
      | _ => .error .malformed
  | _ => .error .malformed

/-- The members of an object up to its closing brace, each value read by `item`. Of two
members with equal keys the later one wins. -/
def members (item : List Char → Except DecodeFault (Json × List Char)) (first : Bool)
    (done : List (String × Json)) : Nat → List Char →
    Except DecodeFault (List (String × Json) × List Char)
  | 0, _ => .error .endOfText
  | fuel + 1, cs =>
    match nextItem '\x7d' first cs with
    | .error fault => .error fault
    | .ok (false, cs) => .ok (done, cs)
    | .ok (true, cs) =>
      match memberKey cs with
      | .error fault => .error fault
      | .ok (key, cs) =>
        match item cs with
        | .ok (value, cs) => members item false (insertEntry key value done) fuel cs
        | .error fault => .error fault

/-- A value that is no container. -/
def scalar : List Char → Except DecodeFault (Json × List Char)
  | [] => .error .endOfText
  | 'n' :: cs => (word ['u', 'l', 'l'] cs).map fun cs => (.null, cs)
  | 't' :: cs => (word ['r', 'u', 'e'] cs).map fun cs => (.bool true, cs)
  | 'f' :: cs => (word ['a', 'l', 's', 'e'] cs).map fun cs => (.bool false, cs)
  | '"' :: cs => (string cs).map fun (s, cs) => (.str s, cs)
  | c :: cs =>
    if c == '-' || c.isDigit then number (c :: cs) else .error .malformed

/-- The value at the front of a text, with at most `depth` containers inside one another. -/
def value (depth : Nat) (cs : List Char) : Except DecodeFault (Json × List Char) :=
  match skipSpace cs with
  | '[' :: cs =>
    match depth with
    | 0 => .error .malformed
    | depth + 1 =>
      (items (value depth) true [] (cs.length + 1) cs).map fun (vs, cs) => (.arr vs, cs)
  | '\x7b' :: cs =>
    match depth with
    | 0 => .error .malformed
    | depth + 1 =>
      (members (value depth) true [] (cs.length + 1) cs).map fun (ms, cs) => (.obj ms, cs)
  | cs => scalar cs

/-- How many containers a text may nest. -/
def maxDepth : Nat := 127

/-- Nothing but spaces may follow a value. -/
def atEnd (cs : List Char) : Except DecodeFault Unit :=
  if (skipSpace cs).isEmpty then .ok () else .error .malformed

end Reader

/-- The value that a whole text holds. -/
def read (text : String) : Except DecodeFault Json := do
  let (v, rest) ← Reader.value Reader.maxDepth text.toList
  Reader.atEnd rest
  return v

end TemplateCheck.Json

namespace TemplateCheck.Model

open TemplateCheck.Json TemplateCheck.Json.Reader in
/-- The model that a whole text holds: one object. -/
def read (text : String) : Except DecodeFault Model := do
  match skipSpace text.toList with
  | '[' :: _ => .error .invalidType
  | '\x7b' :: cs =>
    let (ms, rest) ← members (value (maxDepth - 1)) true [] (cs.length + 1) cs
    atEnd rest
    return KeyMap.ofList ms
  | cs =>
    let _ ← scalar cs
    .error .invalidType

end TemplateCheck.Model
