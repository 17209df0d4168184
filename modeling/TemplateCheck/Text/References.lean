/-!
# References to variables

`$NAME` and `${NAME}` inside a text, replaced by the values of the named variables.

* `Piece` — literal text, or a reference by name;
* `References.pieces` — how a text is read, whatever the variables hold;
* `References.expand` — the pieces put together again, each reference replaced by its value.
  A variable without a value is replaced by nothing, and no value is read a second time.

A name in braces is any non-empty text without a closing brace. A name without braces is a
longest run of ASCII letters, digits and underscores. A dollar sign that begins neither is
literal, and so are the empty braces' dollar sign and an opening brace that is not closed.
-/

namespace TemplateCheck.Text

/-- A part of a text with references. -/
inductive Piece where
  | literal (cs : List Char)
  | reference (name : List Char)
deriving Repr, DecidableEq

namespace References

/-- The characters of a name without braces. -/
def isNameChar (c : Char) : Bool :=
  c.isAlphanum || c == '_'

/-- The reference, or the literal dollar sign, at the front of the text after a dollar sign,
and how many characters of that text it takes. -/
def afterDollar : List Char → Piece × Nat
  | '\x7b' :: rest =>
    let name := rest.takeWhile (· ≠ '\x7d')
    if name.length = rest.length then (.literal ['$'], 0)
    else if name.isEmpty then (.literal ['$'], 2)
    else (.reference name, name.length + 2)
  | rest =>
    let name := rest.takeWhile isNameChar
    if name.isEmpty then (.literal ['$'], 0) else (.reference name, name.length)

/-- The pieces of a text of which the first `skip` characters belong to the piece before. -/
def piecesFrom (skip : Nat) : List Char → List Piece
  | [] => []
  | c :: cs =>
    match skip with
    | skip + 1 => piecesFrom skip cs
    | 0 =>
      if c = '$' then
        let (piece, width) := afterDollar cs
        piece :: piecesFrom width cs
      else .literal [c] :: piecesFrom 0 cs

/-- The pieces of a text. -/
def pieces (text : List Char) : List Piece :=
  piecesFrom 0 text

/-- The text of a piece, given the values of the variables. -/
def Piece.value (lookup : String → Option String) : Piece → List Char
  | .literal cs => cs
  | .reference name => ((lookup (String.ofList name)).getD "").toList

/-- The names that a text refers to, in order. -/
def names (text : String) : List String :=
  (pieces text.toList).filterMap fun
    | .literal _ => none
    | .reference name => some (String.ofList name)

/-- A text with every reference replaced by the value of its variable. -/
def expand (lookup : String → Option String) (text : String) : String :=
  String.ofList ((pieces text.toList).flatMap (Piece.value lookup))

end References

end TemplateCheck.Text
