import TemplateCheck.Yaml.Scalar.Block
import TemplateCheck.Yaml.Scalar.Plain
import TemplateCheck.Yaml.Token.Property

/-!
# Scanning YAML

A text is read token by token. Indentation opens and closes blocks; whether something is a key is
known only when the colon behind it is found, so the tokens of its mapping are put in front of it
then.

* `Place` — a place in the text;
* `Key` — where a key may have begun;
* `Scanner` — how far the text has been read, and the tokens so far;
* `Scanner.fetch?` — one more token;
* `Token.scan` — the tokens of a whole text.

When the scanner cannot go on, the tokens behind a place where a key may have begun are not told,
because it is not known what they are.
-/

namespace TemplateCheck.Yaml

/-! ### State -/

/-- A place in a text. -/
structure Place where
  index : Nat
  line : Nat
  column : Nat
deriving Repr, DecidableEq

/-- The place behind some characters. -/
def Place.past (p : Place) : List Char → Place
  | '\r' :: '\n' :: cs => Place.past ⟨p.index + 2, p.line + 1, 0⟩ cs
  | c :: cs =>
    if isBreak c then Place.past ⟨p.index + 1, p.line + 1, 0⟩ cs
    else Place.past ⟨p.index + 1, p.line, p.column + 1⟩ cs
  | [] => p

/-- Where a key may have begun. -/
structure Key where
  place : Place
  /-- How many tokens there are in front of it. -/
  number : Nat
  /-- Can it be nothing else than a key? -/
  isRequired : Bool
deriving Repr, DecidableEq

/-- The state of scanning. -/
structure Scanner where
  rest : List Char
  place : Place
  /-- The tokens, the last one first. -/
  tokens : List Token
  /-- How many tokens there are. -/
  count : Nat
  /-- How many of them are told even if the scanner cannot go on. -/
  told : Nat
  /-- The columns of the blocks that are open, the innermost one first. -/
  indents : List Nat
  /-- Where a key may have begun on this level of brackets. -/
  key : Option Key
  /-- The same for the levels around this one. -/
  outerKeys : List (Option Key)
  /-- May a key begin here? -/
  keyAllowed : Bool
deriving Repr

namespace Scanner

/-- The beginning of a text. -/
def start (cs : List Char) : Scanner :=
  ⟨cs, ⟨0, 0, 0⟩, [], 0, 0, [], none, [], true⟩

/-- Is this between brackets? -/
def isFlow (s : Scanner) : Bool :=
  !s.outerKeys.isEmpty

/-- The column of the innermost block, -1 if there is none. -/
def indent (s : Scanner) : Int :=
  match s.indents with
  | n :: _ => n
  | [] => -1

/-- Go on behind some characters. -/
def advance (n : Nat) (s : Scanner) : Scanner :=
  { s with rest := s.rest.drop n, place := s.place.past (s.rest.take n) }

/-- One more token. -/
def push (t : Token) (s : Scanner) : Scanner :=
  { s with tokens := t :: s.tokens, count := s.count + 1 }

/-- One more token, with so many tokens in front of it. -/
def insert (number : Nat) (t : Token) (s : Scanner) : Scanner :=
  { s with tokens := s.tokens.insertIdx (s.count - number) t, count := s.count + 1 }

/-- One more token, written with so many characters. -/
def take (t : Token) (n : Nat) (s : Scanner) : Scanner :=
  (s.push t).advance n

/-- May a key begin behind this? -/
def allow (allowed : Bool) (s : Scanner) : Scanner :=
  { s with keyAllowed := allowed }

/-! ### Keys -/

/-- No key has begun on this level. There must not be one that can be nothing else. -/
def dropKey? (s : Scanner) : Option Scanner :=
  if s.key.any (·.isRequired) then none else some { s with key := none }

/-- A key may begin here, if one may begin here at all. -/
def saveKey? (s : Scanner) : Option Scanner :=
  if s.keyAllowed then
    s.dropKey?.map fun s =>
      { s with key := some ⟨s.place, s.count, !s.isFlow && s.indent == s.place.column⟩ }
  else some s

/-- Is it too late for the colon behind a key? It has to be on the same line, and not too far
away. -/
def isStale (p : Place) (k : Key) : Bool :=
  k.place.line < p.line || k.place.index + 1024 < p.index

/-- A place where a key may have begun, unless it is too late for its colon. -/
def fresh (p : Place) (k : Option Key) : Option Key :=
  k.filter (!isStale p ·)

/-- Forget the keys for which it is too late. -/
def expire? (s : Scanner) : Option Scanner :=
  if (s.key :: s.outerKeys).any (·.any fun k => k.isRequired && isStale s.place k) then none
  else some { s with key := fresh s.place s.key, outerKeys := s.outerKeys.map (fresh s.place) }

/-- Tell the tokens up to the first place where a key may have begun. -/
def tell (s : Scanner) : Scanner :=
  let numbers := (s.key :: s.outerKeys).filterMap (·.map (·.number))
  { s with told := numbers.foldl min s.count }

/-! ### Blocks -/

/-- Close the blocks that are indented farther than a column. -/
def closeBlocks (column : Int) (s : Scanner) : Scanner :=
  if s.isFlow then s
  else
    let closed := (s.indents.takeWhile fun (n : Nat) => column < (n : Int)).length
    { (List.replicate closed Token.closeBlock).foldl (fun s t => s.push t) s with
      indents := s.indents.drop closed }

/-- Open a block at a column, unless it is open already; so many tokens are in front of it. -/
def openBlock (column number : Nat) (t : Token) (s : Scanner) : Scanner :=
  if s.isFlow || column ≤ s.indent then s
  else { s.insert number t with indents := column :: s.indents }

/-- Open a block here. A block begins only where a key may begin. -/
def openBlockHere? (t : Token) (s : Scanner) : Option Scanner :=
  if s.isFlow then some s
  else if s.keyAllowed then some (s.openBlock s.place.column s.count t)
  else none

/-! ### Tokens -/

/-- How many characters the blanks, comments and line ends at the front of a text take, and
whether a key may begin behind them. Tabs count as blanks only where no key may begin. -/
def skip (flow allowed comment : Bool) : List Char → Nat × Bool
  | [] => (0, allowed)
  | c :: cs =>
    let more (allowed comment : Bool) : Nat × Bool :=
      let (n, allowed) := skip flow allowed comment cs
      (n + 1, allowed)
    if isBreak c then more (allowed || !flow) false
    else if comment || c = '#' then more allowed true
    else if c = ' ' || (c = '\t' && (flow || !allowed)) then more allowed false
    else (0, allowed)

/-- Go on to the next token. There may be a byte order mark at the beginning of a text. -/
def skipGap (s : Scanner) : Scanner :=
  let s := if s.place.index = 0 ∧ s.rest.head? = some '\ufeff' then s.advance 1 else s
  let (n, allowed) := skip s.isFlow s.keyAllowed false s.rest
  (s.advance n).allow allowed

/-- A mark between documents, or a directive: all blocks are closed. -/
def between? (t : Token) (n : Nat) (s : Scanner) : Option Scanner :=
  (s.closeBlocks (-1)).dropKey?.map fun s => (s.take t n).allow false

/-- The end of the text. -/
def finish? (s : Scanner) : Option Scanner :=
  let line := if s.place.column = 0 then s.place.line else s.place.line + 1
  let s := { s with place := ⟨s.place.index, line, 0⟩ }
  (s.closeBlocks (-1)).dropKey?.map fun s => (s.push .finish).allow false

/-- An opening bracket. -/
def openFlow? (t : Token) (s : Scanner) : Option Scanner :=
  s.saveKey?.map fun s =>
    { (s.take t 1).allow true with key := none, outerKeys := s.key :: s.outerKeys }

/-- A closing bracket. -/
def closeFlow? (t : Token) (s : Scanner) : Option Scanner :=
  s.dropKey?.map fun s =>
    let s := (s.take t 1).allow false
    match s.outerKeys with
    | key :: outer => { s with key := key, outerKeys := outer }
    | [] => s

/-- A comma between brackets. -/
def comma? (s : Scanner) : Option Scanner :=
  s.dropKey?.map fun s => (s.take .comma 1).allow true

/-- The dash in front of an item. -/
def dash? (s : Scanner) : Option Scanner := do
  let s ← (← s.openBlockHere? .openList).dropKey?
  return (s.take .dash 1).allow true

/-- The question mark in front of a key. -/
def question? (s : Scanner) : Option Scanner := do
  let s ← (← s.openBlockHere? .openMap).dropKey?
  return (s.take .key 1).allow (!s.isFlow)

/-- The colon in front of a value. If a key may have begun, it has. -/
def colon? (s : Scanner) : Option Scanner :=
  match s.key with
  | some key =>
    let s := (s.insert key.number .key).openBlock key.place.column key.number .openMap
    let s := { s with key := none }
    some ((s.take .value 1).allow false)
  | none => (s.openBlockHere? .openMap).map fun s => (s.take .value 1).allow (!s.isFlow)

/-- Something that may be a key, and that no key begins behind. -/
def simple? (part : Option (Token × Nat)) (s : Scanner) : Option Scanner := do
  let s ← s.saveKey?
  let (t, n) ← part
  return (s.take t n).allow false

/-- A quoted scalar. -/
def quoted? (double : Bool) (cs : List Char) (s : Scanner) : Option Scanner :=
  s.simple? ((Quoted.text? double cs).map fun (text, n) =>
    (.scalar .quoted (String.ofList text), 1 + n))

/-- A block scalar. -/
def block? (literal : Bool) (cs : List Char) (s : Scanner) : Option Scanner := do
  let s ← s.dropKey?
  let (text, n) ← Block.text? literal s.indent cs
  let style := if literal then Style.literal else .folded
  return (s.take (.scalar style (String.ofList text)) (1 + n)).allow true

/-- A plain scalar. A key may begin behind it if there is a line end. -/
def plain? (s : Scanner) : Option Scanner := do
  let s ← s.saveKey?
  let e ← Plain.text? s.isFlow (s.indent + 1).toNat s.rest
  return (s.take (.scalar .plain (String.ofList e.text)) e.length).allow e.endsLine

/-- The token at a character `c` that is followed by `cs`. -/
def token? (c : Char) (cs : List Char) (s : Scanner) : Option Scanner :=
  let flow := s.isFlow
  let atLineStart := s.place.column = 0
  if atLineStart ∧ c = '%' then
    match Token.directive? cs with
    | some (t, n) => s.between? t (1 + n)
    | none => none
  else if atLineStart ∧ startsWithMark documentStart (c :: cs) then s.between? .documentStart 3
  else if atLineStart ∧ startsWithMark documentEnd (c :: cs) then s.between? .documentEnd 3
  else if c = '[' then s.openFlow? .openFlowList
  else if c = '\x7b' then s.openFlow? .openFlowMap
  else if c = ']' then s.closeFlow? .closeFlowList
  else if c = '\x7d' then s.closeFlow? .closeFlowMap
  else if c = ',' then s.comma?
  else if c = '-' ∧ isWordEnd cs then s.dash?
  else if c = '?' ∧ (flow ∨ isWordEnd cs) then s.question?
  else if c = ':' ∧ (flow ∨ isWordEnd cs) then s.colon?
  else if c = '*' then s.simple? ((Token.anchor? cs).map fun (name, n) => (.aliasOf name, 1 + n))
  else if c = '&' then s.simple? ((Token.anchor? cs).map fun (name, n) => (.anchor name, 1 + n))
  else if c = '!' then s.simple? ((Token.tag? flow cs).map fun (t, n) => (t, 1 + n))
  else if c = '|' ∧ !flow then s.block? true cs
  else if c = '>' ∧ !flow then s.block? false cs
  else if c = '\x27' then s.quoted? false cs
  else if c = '"' then s.quoted? true cs
  else if Plain.startsHere flow (c :: cs) then s.plain?
  else none

/-- One more token, or the end of the text. -/
def fetch? (s : Scanner) : Option Scanner := do
  let s ← s.skipGap.expire?
  let s := s.closeBlocks s.place.column
  match s.rest with
  | [] => s.finish?
  | c :: cs => s.token? c cs

/-- The tokens of at most so many steps. -/
def run : Nat → Scanner → List Token
  | 0, s => s.tokens.reverse
  | fuel + 1, s =>
    match s.fetch?.bind expire? with
    | none => s.tokens.reverse.take s.told
    | some s =>
      if s.tokens.head? = some .finish then s.tokens.reverse else run fuel s.tell

end Scanner

/-- The tokens of a text. The last one is `finish`, unless the text breaks the rules. -/
def Token.scan (text : String) : List Token :=
  let cs := text.toList
  let cs := if cs.head? = some '\ufeff' then cs.drop 1 else cs
  if cs.all isAllowed then (Scanner.start cs).run (cs.length + 2) else []

end TemplateCheck.Yaml
