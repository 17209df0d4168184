import TemplateCheck.Template.Token.Basic

/-!
# Reading from tokens

* `Cursor` — the tokens that are not used yet, and what the reader has to remember;
* `Reader` — computations that use tokens and may fail on a line;
* `peek?`, `next?`, `want`, `accept` — looking at tokens and using them;
* `fold`, `collect` — going on as long as a step finds something.

A failure is on the line of the last token that was used.
-/

namespace TemplateCheck.Template

/-- The state of reading. -/
structure Cursor where
  rest : List Lexeme
  /-- How many tokens the whole template has. -/
  size : Nat
  /-- Why there are no more tokens behind these. -/
  broken : Option Break
  /-- The line of the last token that was used. -/
  last : Nat
  /-- The names of the blocks so far. -/
  blocks : List String
  /-- Is this the body of a routine? -/
  inRoutine : Bool
deriving Repr

/-- A computation that uses tokens. -/
abbrev Reader := StateT Cursor (Except (FaultKind × Nat))

namespace Reader

/-- A failure on the line of the last token that was used. -/
def failWith {α : Type} (kind : FaultKind) : Reader α := fun c => .error (kind, c.last)

/-- The text is not a template. -/
def fail {α : Type} : Reader α := failWith .malformed

/-- The line of the last token that was used. -/
def lastLine : Reader Nat := return (← get).last

/-- The next token, if there is one. -/
def peek? : Reader (Option Token) := fun c =>
  match c.rest, c.broken with
  | lexeme :: _, _ => .ok (some lexeme.token, c)
  | [], none => .ok (none, c)
  | [], some why => .error (why.kind, why.line.getD c.last)

/-- The token behind the next one, if there is one. -/
def second? : Reader (Option Token) :=
  return ((← get).rest[1]?).map (·.token)

/-- The line of the next token, or of the last one at the end. -/
def line : Reader Nat := do
  let c ← get
  return (c.rest.head?.map (·.line)).getD c.last

/-- Use the next token. -/
def next? : Reader (Option Token) := do
  match ← peek? with
  | none => return none
  | some token =>
    modify fun c => { c with last := (c.rest.head?.map (·.line)).getD c.last, rest := c.rest.tail }
    return some token

/-- Use the next token, which has to be there. -/
def next : Reader Token := do
  match ← next? with
  | some token => return token
  | none => fail

/-- Use the next token, which has to pass. -/
def want (p : Token → Bool) : Reader Unit := do
  let token ← next
  if p token then return () else fail

/-- Is there a next token that passes? -/
def sees (p : Token → Bool) : Reader Bool := do
  return (← peek?).any p

/-- Use the next token if it passes. -/
def accept (p : Token → Bool) : Reader Bool := do
  if ← sees p then
    let _ ← next?
    return true
  else return false

/-! ### Tokens by what they are -/

/-- Is the token the sign? -/
def isSign (s : Sign) : Token → Bool
  | .sign t => s == t
  | _ => false

/-- Is the token the word? -/
def isWord (w : String) : Token → Bool
  | .name s => s == w
  | _ => false

/-- Is the token one of the words? -/
def isWordOf (ws : List String) : Token → Bool
  | .name s => ws.contains s
  | _ => false

/-- Is the token the end of a statement? -/
def isBlockEnd : Token → Bool
  | .closeBlock => true
  | _ => false

/-- Is the token the end of an expression tag? -/
def isVariableEnd : Token → Bool
  | .closeVariable => true
  | _ => false

/-- Use the next token, which has to be a name. -/
def name : Reader String := do
  match ← next with
  | .name s => return s
  | _ => fail

/-! ### Going on -/

/-- The result of steps that go on, for at most so many, as long as they find something. -/
def foldUpTo {α : Type} (step : α → Reader (Option α)) : Nat → α → Reader α
  | 0, a => return a
  | n + 1, a => do
    match ← step a with
    | none => return a
    | some b => foldUpTo step n b

/-- The result of steps that go on as long as they find something. Each step that does uses a
token. -/
def fold {α : Type} (step : α → Reader (Option α)) (a : α) : Reader α := do
  foldUpTo step ((← get).size + 1) a

/-- What steps find, as long as they find something. A step is told how many there are already. -/
def collect {α : Type} (step : Nat → Reader (Option α)) : Reader (List α) := do
  let found ← fold (fun (found : List α) => do
    return (← step found.length).map (· :: found)) []
  return found.reverse

end Reader

end TemplateCheck.Template
