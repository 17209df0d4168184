import TemplateCheck.Template.Expr.Reader
import TemplateCheck.Template.Token.Scan

/-!
# Reading statements

* `Statement.read` — a statement behind the mark that opens its tag;
* `Statement.body` — statements, text and printed expressions up to a closing word;
* `Program.ofLexed` — a whole template.
-/

namespace TemplateCheck.Template

open Reader

namespace Statement

/-- How deep statements and expressions may be nested in all. -/
def nestingLimit : Nat := 150

/-- The names that cannot be given a value. -/
def reserved : List String :=
  ["true", "True", "false", "False", "none", "None", "loop", "self"]

/-- The end of the tag of a statement. -/
def tagEnd : Reader Unit := want isBlockEnd

/-! ### Targets -/

/-- A name that can be given a value. -/
def targetName : Reader String := do
  let name ← Reader.name
  if reserved.contains name then fail else return name

/-- A name, perhaps with attributes behind it, that can be given a value. -/
def dotted : Reader Target := do
  let line ← Reader.line
  let name ← targetName
  let attrs ← collect fun _ => do
    if ← accept (isSign .dot) then
      let line ← Reader.line
      return some (line, ← Reader.name)
    else return none
  match attrs.reverse with
  | [] => return .name name
  | (at_, last) :: before =>
    let e := before.foldr (fun (line, attr) e => Expr.attr line e attr) (.var line name)
    return .attr at_ e last

/-- Can no target follow? -/
def endsTargets (t : Token) : Bool :=
  isSign .closeParen t || isVariableEnd t || isBlockEnd t || isWord "in" t

/-- Targets in parentheses, or a single one without. -/
def enclosed (inner single : Reader Target) : Reader Target := do
  if ← accept (isSign .openParen) then
    let t ← inner
    want (isSign .closeParen)
    return t
  else single

/-- The targets that share the items of a value; `found` are the ones before, the last one
first. -/
def moreTargets (one : Reader Target) (found : List Target) : Reader (Option (List Target)) := do
  if ← accept (isSign .comma) then
    if ← sees endsTargets then return none else return some ((← one) :: found)
  else return none

/-- A target or several with commas between them; in parentheses they may be nested, at most so
deep. -/
def targetsUpTo (single : Reader Target) : Nat → Reader Target
  | 0 => fail
  | n + 1 => do
    let line ← Reader.line
    let one := enclosed (targetsUpTo single n) single
    if ← sees endsTargets then return .all line []
    else
      let first ← one
      if ← sees (isSign .comma) then
        return .all line (← fold (moreTargets one) [first]).reverse
      else return first

/-- Targets nested at most as deep as there are tokens. -/
def targets (single : Reader Target) : Reader Target := do
  targetsUpTo single ((← get).size + 1)

/-- Names that are given values, in parentheses or not. -/
def names : Reader Target := targets (Target.name <$> targetName)

/-- The targets of an assignment. There is at least one, and none is left out behind a comma. -/
def assigned : Reader Target := do
  let line ← Reader.line
  let one := enclosed (targets dotted) dotted
  let first ← one
  let more ← collect fun _ => do
    if ← accept (isSign .comma) then return some (← one) else return none
  if more.isEmpty then return first else return .all line (first :: more)

/-! ### Parts of statements -/

/-- What a statement is read with: the grammar of its expressions, and its body up to a closing
word. -/
structure Inner where
  grammar : Grammar
  body : List String → Reader (List Stmt)

/-- The body of a statement and the word that closes it. -/
def Inner.closed (inner : Inner) (word : String) : Reader (List Stmt) := do
  let body ← inner.body [word]
  let _ ← next?
  return body

/-- A chain of filters on the text of a body. -/
def filters (g : Grammar) : Reader Expr := do
  let chain ← collect fun count => do
    if ← sees isBlockEnd then return none
    else
      if count > 0 then want (isSign .bar)
      return some (← Grammar.filterName g)
  match chain with
  | [] => fail
  | chain =>
    return chain.foldl (fun e (line, name, kinds, args) => .filter line name e kinds args) .input

/-- The parameters of a routine behind the opening parenthesis, the last one first, and their
defaults. Behind one with a default there is none without. -/
def parametersFrom (g : Grammar) (found : List (String × Option Expr)) :
    Reader (Option (List (String × Option Expr))) := do
  if ← sees (isSign .closeParen) then return none
  else
    if !found.isEmpty then want (isSign .comma)
    if ← sees (isSign .closeParen) then return none
    else
      let name ← targetName
      if ← accept (isSign .assign) then return some ((name, some (← g.whole)) :: found)
      else if found.any fun (_, default) => default.isSome then fail
      else return some ((name, none) :: found)

/-- The parameters of a routine behind the opening parenthesis, and the defaults of the last
ones. -/
def parameters (g : Grammar) : Reader (List String × List Expr) := do
  let found := (← fold (parametersFrom g) []).reverse
  want (isSign .closeParen)
  return (found.map (·.1), found.filterMap (·.2))

/-- The body of a routine up to a closing word. -/
def routineBody (inner : Inner) (word : String) : Reader (List Stmt) := do
  tagEnd
  let outer := (← get).inRoutine
  modify ({ · with inRoutine := true })
  let body ← inner.body [word]
  modify ({ · with inRoutine := outer })
  let _ ← next?
  return body

/-- Use the word `context` and the word in front that says whether it is given, if they come
next. -/
def acceptContext : Reader Bool := do
  if (← sees (isWordOf ["without", "with"])) && (← second?).any (isWord "context") then
    let _ ← next?
    let _ ← next?
    return true
  else return false

/-! ### Statements -/

/-- A loop. -/
def loop (inner : Inner) (line : Nat) : Reader Stmt := do
  let target ← names
  want (isWord "in")
  let items ← inner.grammar.simple
  let condition ←
    if ← accept (isWord "if") then pure (some (0, ← inner.grammar.whole)) else pure none
  let recursive ← accept (isWord "recursive")
  tagEnd
  let body ← inner.body ["endfor", "else"]
  let others ←
    if ← accept (isWord "else") then
      tagEnd
      inner.body ["endfor"]
    else pure []
  let _ ← next?
  return .loop line target items condition recursive body others

/-- A choice between statements; further conditions are choices of their own, at most so
many. -/
def choose (inner : Inner) (line : Nat) : Nat → Reader Stmt
  | 0 => fail
  | n + 1 => do
    let test ← inner.grammar.simple
    tagEnd
    let yes ← inner.body ["endif", "else", "elif"]
    match ← next? with
    | some (.name "else") =>
      tagEnd
      return .choose line test yes (← inner.closed "endif")
    | some (.name "elif") =>
      let here ← lastLine
      return .choose line test yes [← choose inner here n]
    | _ => return .choose line test yes []

/-- Names with values for a body. -/
def bind (inner : Inner) (line : Nat) : Reader Stmt := do
  let bindings ← collect fun count => do
    if ← sees isBlockEnd then return none
    else
      if count > 0 then want (isSign .comma)
      let target ← enclosed names (Target.name <$> targetName)
      want (isSign .assign)
      return some (target, ← inner.grammar.whole)
  tagEnd
  return .bind line bindings (← inner.closed "endwith")

/-- The value of an assignment: an expression, or a list if there is a comma. -/
def assignedValue (g : Grammar) : Reader Expr := do
  let line ← Reader.line
  let first ← g.whole
  if ← sees (isSign .comma) then
    let more ← collect fun _ => do
      if ← accept (isSign .comma) then
        if ← sees isBlockEnd then return none else return some (← g.whole)
      else return none
    return .list line (first :: more)
  else return first

/-- An assignment of a value, or of the text of a body. -/
def set (inner : Inner) : Reader Stmt := do
  let target ← assigned
  if ← sees fun t => isBlockEnd t || isSign .bar t then
    let filter ← if ← accept (isSign .bar) then filters inner.grammar else pure .input
    tagEnd
    return .capture target filter (← inner.closed "endset")
  else
    want (isSign .assign)
    return .set target (← assignedValue inner.grammar)

/-- Does a body hold nothing but blank text? -/
def isBlank (body : List Stmt) : Bool :=
  body.all fun
    | .text s => s.toList.all Text.isBlank
    | _ => false

/-- A block with a name that no other block of the template has. The body of a required one is
blank. -/
def block (inner : Inner) (line : Nat) : Reader Stmt := do
  if (← get).inRoutine then fail
  let name ← Reader.name
  if (← get).blocks.contains name then fail
  modify fun c => { c with blocks := name :: c.blocks }
  let _ ← accept (isWord "scoped")
  let required ← accept (isWord "required")
  tagEnd
  let body ← inner.closed "endblock"
  if required && !isBlank body then fail
  if let some (.name trailing) ← peek? then
    if trailing != name then fail
    let _ ← next?
  return .block line name (if required then [.required line] else body)

/-- An inclusion of another template. -/
def include_ (inner : Inner) (line : Nat) : Reader Stmt := do
  let name ← inner.grammar.whole
  let given ← acceptContext
  let optional ← accept (isWord "ignore")
  if optional then
    want (isWord "missing")
    unless given do
      let _ ← acceptContext
  return .include_ line name optional

/-- An import of another template under one name. -/
def import_ (inner : Inner) (line : Nat) : Reader Stmt := do
  let name ← inner.grammar.whole
  want (isWord "as")
  let target ← targetName
  let _ ← acceptContext
  return .import_ line name (.name target)

/-- Is this the end of the names of an import? The context may be given there. -/
def endsImport : Reader Bool := do
  if ← acceptContext then return true else sees isBlockEnd

/-- An import of names from another template. -/
def importNames (inner : Inner) (line : Nat) : Reader Stmt := do
  let name ← inner.grammar.whole
  want (isWord "import")
  let names ← collect fun count => do
    if ← endsImport then return none
    else
      if count > 0 then want (isSign .comma)
      if ← endsImport then return none
      else
        let name ← targetName
        let target ← if ← accept (isWord "as") then targetName else pure name
        return some (name, target)
  return .importNames line name names

/-- A definition of a routine. -/
def routine (inner : Inner) (line : Nat) : Reader Stmt := do
  let name ← Reader.name
  want (isSign .openParen)
  let (params, defaults) ← parameters inner.grammar
  return .routine line name params defaults (← routineBody inner "endmacro")

/-- A call to which a body is passed. -/
def callWith (inner : Inner) (line : Nat) : Reader Stmt := do
  let (params, defaults) ←
    if ← accept (isSign .openParen) then parameters inner.grammar else pure ([], [])
  match ← inner.grammar.whole with
  | .call here callee kinds args =>
    return .callWith here line callee kinds args params defaults (← routineBody inner "endcall")
  | _ => fail

/-- A call whose value is not printed. -/
def run (inner : Inner) : Reader Stmt := do
  match ← inner.grammar.whole with
  | .call line callee kinds args => return .run (.call line callee kinds args)
  | _ => fail

/-- A statement behind its first word, which is on a line. -/
def named (inner : Inner) (line : Nat) (word : String) : Reader Stmt :=
  match word with
  | "for" => loop inner line
  | "if" => do choose inner line ((← get).size + 1)
  | "with" => bind inner line
  | "set" => set inner
  | "autoescape" => do
    let mode ← inner.grammar.whole
    tagEnd
    return .escape line mode (← inner.closed "endautoescape")
  | "filter" => do
    let filter ← filters inner.grammar
    tagEnd
    return .filter line filter (← inner.closed "endfilter")
  | "block" => block inner line
  | "extends" => return .extend line (← inner.grammar.whole)
  | "include" => include_ inner line
  | "import" => import_ inner line
  | "from" => importNames inner line
  | "macro" => routine inner line
  | "call" => callWith inner line
  | "do" => run inner
  | _ => fail

/-- One part of a body up to a closing word, if there is one: text, a printed expression or a
statement. The closing word is not used. -/
def part (statement : Reader Stmt) (g : Grammar) (closing : List String) :
    Reader (Option Stmt) := do
  match ← next? with
  | none => return none
  | some (.data s) => return some (.text s)
  | some .openVariable =>
    let line ← lastLine
    let e ← g.whole
    want isVariableEnd
    return some (.print line e)
  | some .openBlock =>
    match ← peek? with
    | none => fail
    | some t =>
      if isWordOf closing t then return none
      else
        let s ← statement
        tagEnd
        return some s
  | some _ => fail

/-- The parts of a body up to a closing word or the end of the template. -/
def body (statement : Reader Stmt) (g : Grammar) (closing : List String) : Reader (List Stmt) :=
  collect fun _ => part statement g closing

/-- A statement that may be nested so many levels deep. -/
def read : Nat → Reader Stmt
  | 0 => fail
  | depth + 1 => do
    let word ← Reader.name
    let grammar := Grammar.at depth
    named { grammar, body := body (read depth) grammar } (← lastLine) word

end Statement

/-- The statements of a template, from its tokens. -/
def Program.ofLexed (lexed : Lexed) : Except (FaultKind × Nat) Program :=
  let limit := Statement.nestingLimit
  let start : Cursor := ⟨lexed.lexemes, lexed.lexemes.length, lexed.broken, 0, [], false⟩
  match Statement.body (Statement.read limit) (Grammar.at limit) [] start with
  | .ok (body, _) => .ok { body }
  | .error fault => .error fault

end TemplateCheck.Template
