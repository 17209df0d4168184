import TemplateCheck.Json.Value
import TemplateCheck.Decimal.Format

/-!
# Writing JSON

The compact written form of a value, without any space outside strings.

* `Writer.escape` — the written form of one character inside a string;
* `Writer.put` — a value in front of the text that follows it;
* `Json.write` — a whole value.

A written value holds no line break: inside strings every control character is escaped.
-/

namespace TemplateCheck.Json

namespace Writer

/-- A hexadecimal digit in lower case. -/
def hexChar (n : Nat) : Char :=
  if n < 10 then Char.ofNat ('0'.toNat + n) else Char.ofNat ('a'.toNat + (n - 10))

/-- The written form of a character inside a string. -/
def escape (c : Char) : List Char :=
  if c == '"' then ['\\', '"']
  else if c == '\\' then ['\\', '\\']
  else if c == '\x08' then ['\\', 'b']
  else if c == '\x0c' then ['\\', 'f']
  else if c == '\n' then ['\\', 'n']
  else if c == '\r' then ['\\', 'r']
  else if c == '\t' then ['\\', 't']
  else if c.toNat < 0x20 then
    ['\\', 'u', '0', '0', hexChar (c.toNat / 16), hexChar (c.toNat % 16)]
  else [c]

/-- A string with its quotes, in front of `rest`. -/
def putString (s : String) (rest : List Char) : List Char :=
  '"' :: s.toList.foldr (fun c rest => escape c ++ rest) ('"' :: rest)

/-- The text of a value that is no container. -/
def scalar : Json → List Char
  | .bool true => ['t', 'r', 'u', 'e']
  | .bool false => ['f', 'a', 'l', 's', 'e']
  | .int i => (toString i).toList
  | .float f => (Decimal.write .interchange f).toList
  | _ => ['n', 'u', 'l', 'l']

mutual

/-- A value in front of `rest`. -/
def put : Json → List Char → List Char
  | .str s, rest => putString s rest
  | .arr items, rest => '[' :: putItems true items (']' :: rest)
  | .obj members, rest => '\x7b' :: putMembers true members ('\x7d' :: rest)
  | .null, rest => scalar .null ++ rest
  | .bool b, rest => scalar (.bool b) ++ rest
  | .int i, rest => scalar (.int i) ++ rest
  | .float f, rest => scalar (.float f) ++ rest

/-- Items, each but the first after a comma, in front of `rest`. -/
def putItems (first : Bool) : List Json → List Char → List Char
  | [], rest => rest
  | v :: vs, rest =>
    let body := put v (putItems false vs rest)
    if first then body else ',' :: body

/-- Members, each but the first after a comma, in front of `rest`. -/
def putMembers (first : Bool) : List (String × Json) → List Char → List Char
  | [], rest => rest
  | (key, v) :: ms, rest =>
    let body := putString key (':' :: put v (putMembers false ms rest))
    if first then body else ',' :: body

end

end Writer

/-- The written form of a value. -/
def write (v : Json) : String :=
  String.ofList (Writer.put v [])

end TemplateCheck.Json
