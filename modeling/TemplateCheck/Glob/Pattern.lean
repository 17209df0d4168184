/-!
# Glob patterns

The grammar of path patterns, and a reader for it.

* `Fault` — why a pattern is malformed;
* `Token` — one unit of a pattern;
* `Reading` — what a reader has seen of a pattern, with its open groups of alternates;
* `readClass` — a class of characters after its opening bracket;
* `read` — a whole pattern as a list of tokens.

A pair of stars is more than two stars only where it fills a component. What fills a component
depends on the characters around the pair: the slash before it is taken back from the tokens
read so far and becomes part of the wildcard, as does the slash after it.
-/

namespace TemplateCheck.Glob

/-- Why a pattern is malformed. -/
inductive Fault where
  | unclosedClass
  | invalidRange (first last : Char)
  | unopenedAlternates
  | unclosedAlternates
  | danglingEscape
deriving Repr, DecidableEq

/-- The wording of a fault. -/
def Fault.message : Fault → String
  | .unclosedClass => "unclosed character class; missing ']'"
  | .invalidRange first last => s!"invalid range; '{first}' > '{last}'"
  | .unopenedAlternates =>
    "unopened alternate group; missing '\x7b' (maybe escape '\x7d' with '[\x7d]'?)"
  | .unclosedAlternates =>
    "unclosed alternate group; missing '\x7d' (maybe escape '\x7b' with '[\x7b]'?)"
  | .danglingEscape => "dangling '\\'"

/-- One unit of a pattern. -/
inductive Token where
  | literal (c : Char)
  /-- One byte other than a slash. -/
  | any
  /-- Any bytes other than slashes. -/
  | star
  /-- Nothing, or any directories at the start of a path. -/
  | leading
  /-- Anything below a directory. -/
  | trailing
  /-- A slash, or any directories between two slashes. -/
  | between
  /-- One byte in, or not in, the ranges. -/
  | byteClass (negated : Bool) (ranges : List (Char × Char))
  /-- One of several patterns. -/
  | alternates (branches : List (List Token))
deriving Repr, Inhabited

/-! ### Classes -/

/-- The ranges of a class up to its closing bracket, and how many characters it takes, or
nothing if it does not close. `ranges` holds those read so far, last one first; `first` tells
that nothing has been read yet, `dashed` that a dash waits for the end of a range. -/
def readClass (ranges : List (Char × Char)) (first dashed : Bool) :
    List Char → Except Fault (Option (List (Char × Char) × Nat))
  | [] => .ok none
  | c :: cs =>
    if c = ']' ∧ !first then
      .ok (some ((if dashed then ('-', '-') :: ranges else ranges).reverse, 1))
    else
      let more : Except Fault (Option (List (Char × Char) × Nat)) :=
        match ranges with
        | (low, high) :: earlier =>
          if dashed then
            if c < low then .error (.invalidRange low c)
            else readClass ((low, c) :: earlier) false false cs
          else if c = '-' then readClass ranges false true cs
          else readClass ((c, c) :: (low, high) :: earlier) false false cs
        | [] => readClass [(c, c)] false false cs
      more.map (Option.map fun (found, width) => (found, width + 1))

/-! ### Reading -/

/-- What has been read of a pattern: the tokens of the innermost branch, last one first; the
finished branches of the innermost group, last one first; and the same for each group around
it, innermost first. -/
structure Reading where
  tokens : List Token
  branches : List (List Token)
  outer : List (List Token × List (List Token))
  /-- May a bracket still open a class? -/
  classes : Bool
deriving Repr

namespace Reading

/-- Nothing has been read. -/
def start : Reading := ⟨[], [], [], true⟩

/-- Is a group open? -/
def inGroup (r : Reading) : Bool := !r.outer.isEmpty

/-- One more token. -/
def push (r : Reading) (t : Token) : Reading := { r with tokens := t :: r.tokens }

/-- A group opens. -/
def openGroup (r : Reading) : Reading :=
  { r with tokens := [], branches := [], outer := (r.tokens, r.branches) :: r.outer }

/-- The next branch of the innermost group begins. -/
def nextBranch (r : Reading) : Reading :=
  { r with tokens := [], branches := r.tokens.reverse :: r.branches }

/-- The innermost group closes. -/
def closeGroup (r : Reading) : Except Fault Reading :=
  match r.outer with
  | [] => .error .unopenedAlternates
  | (tokens, branches) :: outer =>
    let group := Token.alternates (r.tokens.reverse :: r.branches).reverse
    .ok { r with tokens := group :: tokens, branches := branches, outer := outer }

/-- Two stars that do not fill a component. -/
def twoStars (r : Reading) : Reading := (r.push .star).push .star

/-- The last token gives way to a wildcard for directories; a wildcard of that kind stays. -/
def fill (r : Reading) (wildcard : Token) : Reading :=
  match r.tokens with
  | .leading :: _ => r
  | .trailing :: _ => r
  | _ :: tokens => { r with tokens := wildcard :: tokens }
  | [] => r

/-- The reading after one or two stars, `prev` standing before them and `rest` after the first
of them, and how many characters of `rest` they take. -/
def stars (r : Reading) (prev : Option Char) (rest : List Char) : Reading × Nat :=
  match rest with
  | '*' :: after =>
    if r.tokens.isEmpty then
      match after with
      | [] => (r.push .leading, 1)
      | '/' :: _ => (r.push .leading, 2)
      | _ => (r.twoStars, 1)
    else if prev ≠ some '/' ∧ (!r.inGroup ∨ (prev ≠ some ',' ∧ prev ≠ some '\x7b')) then
      (r.twoStars, 1)
    else
      match after with
      | [] => (r.fill .trailing, 1)
      | '/' :: _ => (r.fill .between, 2)
      | c :: _ =>
        if r.inGroup ∧ (c = ',' ∨ c = '\x7d') then (r.fill .trailing, 1) else (r.twoStars, 1)
  | _ => (r.push .star, 0)

/-- The reading after a bracket, and how many characters of `rest` its class takes. If
`lenient`, a bracket without its partner is literal, and so is every bracket after it. -/
def bracket (lenient : Bool) (r : Reading) (rest : List Char) : Except Fault (Reading × Nat) := do
  let negated := rest.head? = some '!' ∨ rest.head? = some '^'
  match ← readClass [] true false (if negated then rest.drop 1 else rest) with
  | some (ranges, width) =>
    return (r.push (.byteClass negated ranges), if negated then width + 1 else width)
  | none =>
    if lenient then return ({ r with classes := false }.push (.literal '['), 0)
    else .error .unclosedClass

/-- The reading after the character `c`, with `prev` before it and `rest` behind it, and how
many characters of `rest` are taken too. -/
def step (lenient : Bool) (r : Reading) (prev : Option Char) (c : Char) (rest : List Char) :
    Except Fault (Reading × Nat) :=
  if c = '?' then .ok (r.push .any, 0)
  else if c = '*' then .ok (r.stars prev rest)
  else if c = '[' ∧ r.classes then r.bracket lenient rest
  else if c = '\x7b' then .ok (r.openGroup, 0)
  else if c = '\x7d' then r.closeGroup.map (·, 0)
  else if c = ',' ∧ r.inGroup then .ok (r.nextBranch, 0)
  else if c = '\\' then
    match rest with
    | [] => .error .danglingEscape
    | e :: _ => .ok (r.push (.literal e), 1)
  else .ok (r.push (.literal c), 0)

/-- Read the rest of a pattern, of which the first `skip` characters have been taken. -/
def readFrom (lenient : Bool) (r : Reading) (prev : Option Char) (skip : Nat) :
    List Char → Except Fault Reading
  | [] => .ok r
  | c :: cs =>
    match skip with
    | skip + 1 => readFrom lenient r (some c) skip cs
    | 0 =>
      match r.step lenient prev c cs with
      | .error fault => .error fault
      | .ok (r, width) => readFrom lenient r (some c) width cs

end Reading

/-- The tokens of a pattern. -/
def read (lenient : Bool) (pattern : String) : Except Fault (List Token) := do
  let r ← Reading.readFrom lenient .start none 0 pattern.toList
  if r.inGroup then .error .unclosedAlternates else return r.tokens.reverse

end TemplateCheck.Glob
