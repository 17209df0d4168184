import TemplateCheck.Text.Utf8
import TemplateCheck.Yaml.Scalar.Quoted

/-!
# Tokens of YAML

What a YAML text is made of. Blocks that are marked by indentation alone have tokens of their own
for their beginning and end. Read here are anchors, tags and directives.

* `Token` — the tokens; `Style` — how a scalar is written;
* `anchor?` — the name of an anchor or of a reference to one;
* `uri?` — the characters of a tag, some of which may be written as bytes;
* `tag?` — a tag: a handle and what follows it;
* `directive?` — a line that says something about the document below.

Each reader says how many characters it takes.
-/

namespace TemplateCheck.Yaml

/-- How a scalar is written. -/
inductive Style where
  | plain
  | quoted
  | literal
  | folded
deriving Repr, DecidableEq

/-- A token. -/
inductive Token where
  | documentStart
  | documentEnd
  /-- A directive that names the version of the language. -/
  | version (major minor : Nat)
  /-- A directive that says what a handle in front of a tag stands for. -/
  | handle (name expansion : String)
  | openList
  | openMap
  | closeBlock
  | openFlowList
  | closeFlowList
  | openFlowMap
  | closeFlowMap
  /-- The dash in front of an item. -/
  | dash
  | comma
  | key
  | value
  | aliasOf (name : String)
  | anchor (name : String)
  | tag (handle rest : String)
  | scalar (style : Style) (text : String)
  | finish
deriving Repr, DecidableEq

end TemplateCheck.Yaml

namespace TemplateCheck.Yaml.Token

open Quoted (hexDigit?)

/-! ### Anchors -/

/-- May a name end in front of this text? -/
def isNameEnd (cs : List Char) : Bool :=
  isWordEnd cs || cs.head?.any ("?:,]\x7d%@\x60".toList.contains ·)

/-- The name of an anchor behind its sign. -/
def anchor? (cs : List Char) : Option (String × Nat) :=
  let name := cs.takeWhile isNameChar
  if name.isEmpty || !isNameEnd (cs.drop name.length) then none
  else some (String.ofList name, name.length)

/-! ### Tags -/

/-- The characters of tags; some of them only between angle brackets. -/
def isUriChar (enclosed : Bool) (c : Char) : Bool :=
  isNameChar c || ";/?:@&=+$.%!~*\x27()".toList.contains c
    || (enclosed && (c == ',' || c == '[' || c == ']'))

/-- A byte that is written as a percent sign and two digits. -/
def byte? : List Char → Option UInt8
  | '%' :: a :: b :: _ => do
    let high ← hexDigit? a
    let low ← hexDigit? b
    return UInt8.ofNat (high * 16 + low)
  | _ => none

/-- The number of bytes of a character that begins with the given one. -/
def byteCount? (lead : UInt8) : Option Nat :=
  if lead < 0x80 then some 1
  else if 0xC0 ≤ lead ∧ lead < 0xE0 then some 2
  else if 0xE0 ≤ lead ∧ lead < 0xF0 then some 3
  else if 0xF0 ≤ lead ∧ lead < 0xF8 then some 4
  else none

/-- A character that is written as its bytes. Bytes of the right form that are no character stand
for the replacement character. -/
def escapedChar? (cs : List Char) : Option (Char × Nat) := do
  let width ← byteCount? (← byte? cs)
  let bytes ← (List.range width).mapM fun i => byte? (cs.drop (3 * i))
  if bytes.tail.all fun b => 0x80 ≤ b && b < 0xC0 then
    match Text.Utf8.decode bytes with
    | .ok s => return (s.toList.headD '\ufffd', 3 * width)
    | .error _ => return ('\ufffd', 3 * width)
  else none

/-- The characters of a tag at the front of a text. -/
def uri? (enclosed : Bool) : List Char → Option (List Char × Nat)
  | [] => some ([], 0)
  | c :: cs =>
    if !isUriChar enclosed c then some ([], 0)
    else
      match if c = '%' then escapedChar? (c :: cs) else some (c, 1) with
      | none => none
      | some (d, n) =>
        (uri? enclosed (cs.drop (n - 1))).map fun (more, m) => (d :: more, n + m)
termination_by cs => cs.length
decreasing_by rw [List.length_drop, List.length_cons]; omega

/-- The rest of a tag, which must not be empty. -/
def wanted? (part : Option (List Char × Nat)) : Option (List Char × Nat) :=
  part.filter (!·.1.isEmpty)

/-- A tag behind its sign: the handle, and the rest of it. A tag between angle brackets has no
handle. -/
def tagParts? (cs : List Char) : Option (String × String × Nat) :=
  match cs with
  | '<' :: cs => do
    let (text, n) ← wanted? (uri? true cs)
    if (cs.drop n).head? = some '>' then some ("", String.ofList text, n + 2) else none
  | cs =>
    let word := cs.takeWhile isNameChar
    let rest := cs.drop word.length
    if rest.head? = some '!' then do
      let (text, n) ← wanted? (uri? false (rest.drop 1))
      return ("!" ++ String.ofList word ++ "!", String.ofList text, word.length + 1 + n)
    else do
      let (text, n) ← uri? false cs
      if text.isEmpty then return ("", "!", n) else return ("!", String.ofList text, n)

/-- A tag behind its sign, with nothing directly behind it. -/
def tag? (flow : Bool) (cs : List Char) : Option (Token × Nat) := do
  let (name, text, n) ← tagParts? cs
  let rest := cs.drop n
  if isWordEnd rest || (flow && rest.head? = some ',') then return (.tag name text, n) else none

/-! ### Directives -/

/-- The number of blanks at the front of a text. -/
def blanks (cs : List Char) : Nat :=
  (cs.takeWhile isBlank).length

/-- A number of a version; it has at most nine digits. -/
def number? (cs : List Char) : Option (Nat × Nat) :=
  let digits := cs.takeWhile Char.isDigit
  if digits.isEmpty || 9 < digits.length then none
  else some (digits.foldl (fun n c => n * 10 + (c.toNat - '0'.toNat)) 0, digits.length)

/-- The version that a directive names. -/
def version? (cs : List Char) : Option (Token × Nat) := do
  let start := blanks cs
  let (major, n) ← number? (cs.drop start)
  let rest := cs.drop (start + n)
  if rest.head? = some '.' then
    let (minor, m) ← number? (rest.drop 1)
    return (.version major minor, start + n + 1 + m)
  else none

/-- The handle that a directive explains, and what it stands for. -/
def handle? (cs : List Char) : Option (Token × Nat) := do
  let start := blanks cs
  let rest := cs.drop start
  let word := (rest.drop 1).takeWhile isNameChar
  let isClosed := (rest.drop (1 + word.length)).head? = some '!'
  let name := '!' :: word ++ if isClosed then ['!'] else []
  let behind := rest.drop name.length
  if rest.head? ≠ some '!' || (!isClosed && !word.isEmpty) || blanks behind = 0 then none
  else
    let (text, n) ← wanted? (uri? true (behind.drop (blanks behind)))
    let length := start + name.length + blanks behind + n
    if isWordEnd (cs.drop length) then
      return (.handle (String.ofList name) (String.ofList text), length)
    else none

/-- A directive behind its sign, with the rest of its line, on which there may be a comment. -/
def directive? (cs : List Char) : Option (Token × Nat) := do
  let name := cs.takeWhile isNameChar
  let rest := cs.drop name.length
  let (token, n) ←
    if !isWordEnd rest then none
    else if name = "YAML".toList then version? rest
    else if name = "TAG".toList then handle? rest
    else none
  let behind := rest.drop n
  if (behind.drop (blanks behind)).head?.all (fun c => c == '#' || isBreak c) then
    return (token, name.length + n + lineLength behind)
  else none

end TemplateCheck.Yaml.Token
