import TemplateCheck.Template.Fault

/-!
# Tokens

* `Token` — the parts of a template text: the text between tags, the marks around tags, and what
  stands inside them;
* `Lexeme` — a token and the line it starts on;
* `Lexed` — all the tokens of a template, and what broke the reading off, if anything did.
-/

namespace TemplateCheck.Template

/-- The signs of expressions. -/
inductive Sign where
  | plus | minus | times | over | floor | percent | power | bang | dot | comma | colon | tilde
  | bar | assign | equal | unequal | less | atMost | greater | atLeast | openParen | closeParen
  | openBracket | closeBracket | openBrace | closeBrace
deriving Repr, DecidableEq

/-- How a sign changes the number of open brackets. -/
def Sign.depth : Sign → Int
  | .openParen => 1
  | .openBracket => 1
  | .openBrace => 1
  | .closeParen => -1
  | .closeBracket => -1
  | .closeBrace => -1
  | _ => 0

/-- A part of a template text. -/
inductive Token where
  /-- Text outside of tags. -/
  | data (s : String)
  | openVariable
  | closeVariable
  | openBlock
  | closeBlock
  | name (s : String)
  | text (s : String)
  | int (n : Nat)
  | float (f : Float)
  | sign (s : Sign)
deriving Repr, BEq

/-- A token and the line it starts on. -/
structure Lexeme where
  token : Token
  line : Nat
deriving Repr, BEq

/-- Why a text could not be read to its end. Without a line it is the line of the last token
that was used. -/
structure Break where
  kind : FaultKind
  line : Option Nat
deriving Repr, DecidableEq

/-- The tokens of a template. -/
structure Lexed where
  lexemes : List Lexeme
  broken : Option Break
deriving Repr

/-- Tokens in front of others. -/
def Lexed.after (front : List Lexeme) (rest : Lexed) : Lexed :=
  { rest with lexemes := front ++ rest.lexemes }

end TemplateCheck.Template
