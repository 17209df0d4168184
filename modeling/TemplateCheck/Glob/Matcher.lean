import TemplateCheck.Problem

/-!
# Matching

Which paths a pattern matches, byte by byte, and a set of patterns as one predicate on paths.

* `Token.accepts` — does a token match some bytes at the front, so that the continuation
  accepts the rest?
* `Glob.matchesBytes` — does a pattern match a whole path?
* `Matcher.ofPatterns` — every pattern is read at once, and the first malformed one is refused;
* `Matcher.isMatch` — some pattern matches the path. A set without patterns matches nothing.

A path that ends in the component `..` names no file. Patterns that are looked up by file name
never match it: `needsName` tells which.
-/

namespace TemplateCheck.Glob

/-! ### Bytes -/

/-- The byte of the separator. -/
def slash : UInt8 := 47

/-- The bytes of a character. -/
def charBytes (c : Char) : List UInt8 :=
  Text.Utf8.encode (String.ofList [c])

/-- The byte ranges of a range of characters: of a proper range, the last byte of its first
character up to the first byte of its last one, and every other byte by itself. -/
def byteRanges (low high : Char) : List (UInt8 × UInt8) :=
  let single (b : UInt8) := (b, b)
  if low = high then (charBytes low).map single
  else
    let before := charBytes low
    let after := charBytes high
    before.dropLast.map single ++ [(before.getLast?.getD 0, after.head?.getD 0)]
      ++ (after.drop 1).map single

/-- Is the byte in one of the ranges? -/
def inRanges (ranges : List (Char × Char)) (b : UInt8) : Bool :=
  ranges.any fun (low, high) =>
    (byteRanges low high).any fun (first, last) => first ≤ b && b ≤ last

/-! ### Continuations -/

/-- The bytes `expected` at the front, the rest accepted by `k`. -/
def afterBytes (expected : List UInt8) (k : List UInt8 → Bool) (bytes : List UInt8) : Bool :=
  match expected, bytes with
  | [], bytes => k bytes
  | _ :: _, [] => false
  | e :: expected, b :: bytes => e == b && afterBytes expected k bytes

/-- One byte of the class `p` at the front, the rest accepted by `k`. -/
def afterOne (p : UInt8 → Bool) (k : List UInt8 → Bool) : List UInt8 → Bool
  | [] => false
  | b :: bytes => p b && k bytes

/-- Any number of bytes of the class `p` at the front, the rest accepted by `k`. -/
def afterMany (p : UInt8 → Bool) (k : List UInt8 → Bool) : List UInt8 → Bool
  | [] => k []
  | b :: bytes => k (b :: bytes) || (p b && afterMany p k bytes)

/-- Any bytes up to some slash at the front, the rest accepted by `k`. -/
def afterSlash (k : List UInt8 → Bool) : List UInt8 → Bool
  | [] => false
  | b :: bytes => (b == slash && k bytes) || afterSlash k bytes

/-! ### Tokens -/

mutual

/-- Does the token stand for no text at all? Only a group of such branches does. -/
def Token.isVoid : Token → Bool
  | .alternates branches => areVoidBranches branches
  | _ => false

/-- Do all tokens stand for no text at all? -/
def areVoid : List Token → Bool
  | [] => true
  | t :: ts => t.isVoid && areVoid ts

/-- Do all branches stand for no text at all? -/
def areVoidBranches : List (List Token) → Bool
  | [] => true
  | branch :: branches => areVoid branch && areVoidBranches branches

end

mutual

/-- Does the token match bytes at the front, with `k` accepting the rest? -/
def Token.accepts (t : Token) (k : List UInt8 → Bool) (bytes : List UInt8) : Bool :=
  match t with
  | .literal c => afterBytes (charBytes c) k bytes
  | .any => afterOne (· != slash) k bytes
  | .star => afterMany (· != slash) k bytes
  | .leading => k bytes || afterSlash k bytes
  | .trailing => afterOne (· == slash) (afterMany (fun _ => true) k) bytes
  | .between => afterOne (· == slash) (fun rest => k rest || afterSlash k rest) bytes
  | .byteClass negated ranges => afterOne (fun b => inRanges ranges b != negated) k bytes
  | .alternates branches =>
    if areVoidBranches branches then k bytes else acceptsBranch branches k bytes

/-- Do the tokens match bytes at the front one after the other, with `k` accepting the
rest? -/
def acceptsAll (ts : List Token) (k : List UInt8 → Bool) (bytes : List UInt8) : Bool :=
  match ts with
  | [] => k bytes
  | t :: ts => t.accepts (acceptsAll ts k) bytes

/-- Does one of the branches match bytes at the front, with `k` accepting the rest? A branch
without text is no choice. -/
def acceptsBranch (branches : List (List Token)) (k : List UInt8 → Bool) (bytes : List UInt8) :
    Bool :=
  match branches with
  | [] => false
  | branch :: branches =>
    (!areVoid branch && acceptsAll branch k bytes) || acceptsBranch branches k bytes

end

/-! ### Patterns -/

/-- Is the token the given literal character? -/
def Token.isLiteral (p : Char → Bool) : Token → Bool
  | .literal c => p c
  | _ => false

/-- Is a pattern looked up by the name of a file? Of the patterns that end in a literal dot
these are all but the wholly literal ones and those of a literal path below any directory. -/
def needsName (ts : List Token) : Bool :=
  let literals (ts : List Token) := ts.all (Token.isLiteral fun _ => true)
  let inDirectory :=
    match ts with
    | .leading :: rest => literals rest && rest.any (Token.isLiteral (· == '/'))
    | _ => false
  match ts.getLast? with
  | some (.literal '.') => !literals ts && !inDirectory
  | _ => false

/-- Is `..` the last component of the path? -/
def endsInParent (bytes : List UInt8) : Bool :=
  (bytes.reverse.takeWhile (· != slash)) == [46, 46]

/-- Does a pattern match a path? A lone wildcard for directories matches every path. -/
def matchesBytes (ts : List Token) (path : List UInt8) : Bool :=
  match ts with
  | [.leading] => true
  | _ => acceptsAll ts List.isEmpty path && !(needsName ts && endsInParent path)

end TemplateCheck.Glob

namespace TemplateCheck

/-- Patterns with the texts they were read from. -/
structure Matcher where
  globs : List (String × List Glob.Token)
deriving Inhabited

namespace Matcher

/-- The matcher that matches nothing. -/
def empty : Matcher := ⟨[]⟩

/-- Read one pattern. -/
def readPattern (pattern : String) : Except Problem (String × List Glob.Token) :=
  match Glob.read false pattern with
  | .ok tokens => .ok (pattern, tokens)
  | .error fault => .error (.invalidPattern pattern (.glob fault))

/-- The matcher for a list of patterns. -/
def ofPatterns (patterns : List String) : Except Problem Matcher :=
  (patterns.mapM readPattern).map Matcher.mk

/-- Does some pattern match the path? -/
def isMatch (m : Matcher) (path : String) : Bool :=
  m.globs.any fun (_, tokens) => Glob.matchesBytes tokens (Text.Utf8.encode path)

/-- Has the matcher no patterns? -/
def isEmpty (m : Matcher) : Bool := m.globs.isEmpty

/-- The texts of the patterns, in order. -/
def patterns (m : Matcher) : List String := m.globs.map (·.1)

end Matcher

end TemplateCheck
