import TemplateCheck.FileTree.Basic
import TemplateCheck.Glob.Matcher
import TemplateCheck.Text.Pieces
import TemplateCheck.Text.Utf8

/-!
# Ignore files

A `.gitignore` file names what is left out of its directory, one pattern a line.

* `IgnoreRule.readLine` — the rule that a line states, unless its pattern is malformed;
* `IgnoreRule.ofBytes`, `IgnoreRule.inDir` — the rules of a file, and of a directory;
* `IgnoreRule.faultIn?` — the first malformed line of a directory's file;
* `decision?` — what rules say about a path: the last one that is about it counts;
* `isIgnored` — is an entry left out? The rules of its own directory count before those of the
  directories above.
-/

namespace TemplateCheck

/-- What a line of an ignore file says. -/
structure IgnoreRule where
  glob : List Glob.Token
  /-- Is what it names kept, instead of left out? -/
  keeps : Bool
  /-- Is it about directories only? -/
  onlyDirs : Bool

namespace IgnoreRule

/-! ### Lines -/

/-- A line without the blanks at its end, unless the last one is escaped. -/
def trimmed (line : List Char) : List Char :=
  if ['\\', ' '].isSuffixOf line then line else Text.trimEnd Text.isBlank line

/-- A line without its first signs: the pattern, whether it keeps, and whether it is about one
place only. -/
def withoutSigns : List Char → List Char × Bool × Bool
  | '\\' :: '!' :: cs => ('!' :: cs, false, false)
  | '\\' :: '#' :: cs => ('#' :: cs, false, false)
  | '!' :: '/' :: cs => (cs, true, true)
  | '!' :: cs => (cs, true, false)
  | '/' :: cs => (cs, false, true)
  | cs => (cs, false, false)

/-- A pattern without the slash at its end, which says that it is about directories only. The slash
may be escaped. -/
def withoutSlash (cs : List Char) : List Char × Bool :=
  match cs.reverse with
  | '/' :: '\\' :: front => (front.reverse, true)
  | '/' :: front => (front.reverse, true)
  | _ => (cs, false)

/-- A pattern for the path from the directory of the file. One without a slash is about any
directory below; one for all that is below a directory is not about the directory itself. -/
def placed (anchored : Bool) (cs : List Char) : List Char :=
  let anywhere := ['*', '*', '/']
  let cs :=
    if anchored || cs.contains '/' || cs = ['*', '*'] then cs else anywhere ++ cs
  if ['/', '*', '*'].isSuffixOf cs then cs ++ ['/', '*'] else cs

/-- The rule that a line states. An empty line and a comment state none. -/
def readLine (line : List Char) : Except Glob.Fault (Option IgnoreRule) :=
  let text := trimmed line
  if line.head? = some '#' ∨ text.isEmpty then .ok none
  else
    let (pattern, keeps, anchored) := withoutSigns text
    let (pattern, onlyDirs) := withoutSlash pattern
    match Glob.read true (String.ofList (placed anchored pattern)) with
    | .ok glob => .ok (some { glob, keeps, onlyDirs })
    | .error fault => .error fault

/-- The rule of a line, if it states one. A malformed line states none. -/
def ofLine? (line : List Char) : Option IgnoreRule :=
  match readLine line with
  | .ok rule => rule
  | .error _ => none

/-- What is wrong with a line. -/
def lineFault? (line : List Char) : Option Glob.Fault :=
  match readLine line with
  | .ok _ => none
  | .error fault => some fault

/-! ### Files -/

/-- The lines of some bytes, up to the first one that is no text. -/
def textLines (bytes : List UInt8) : List (List Char) :=
  ((bytes.splitOn 10).map Text.Utf8.decode).takeWhile (·.isOk) |>.filterMap fun line =>
    match line with
    | .ok s => some (Text.dropReturn s.toList)
    | .error _ => none

/-- The lines of a file. There may be byte order marks in front of the first one. -/
def linesOf (bytes : List UInt8) : List (List Char) :=
  match textLines bytes with
  | [] => []
  | first :: rest => first.dropWhile (· == '\ufeff') :: rest

/-- The rules of a file. -/
def ofBytes (bytes : List UInt8) : List IgnoreRule :=
  (linesOf bytes).filterMap ofLine?

/-- The name of ignore files. -/
def fileName : String := ".gitignore"

/-- The rules of the directory at a path. A file that cannot be read states none. -/
def inDir (top : FileTree.Node) (path : String) : List IgnoreRule :=
  match FileTree.bytesAt top (Path.join path fileName) with
  | .ok bytes => ofBytes bytes
  | .error _ => []

/-- What is wrong with the rules of the directory at a path: its first malformed line. A file that
cannot be read has none. -/
def faultIn? (top : FileTree.Node) (path : String) : Option Glob.Fault :=
  match FileTree.bytesAt top (Path.join path fileName) with
  | .ok bytes => (linesOf bytes).findSome? lineFault?
  | .error _ => none

/-! ### Decisions -/

/-- Is the rule about a path? -/
def appliesTo (r : IgnoreRule) (isDir : Bool) (path : String) : Bool :=
  Glob.matchesBytes r.glob (Text.Utf8.encode path) && (!r.onlyDirs || isDir)

/-- What rules say about a path: is it kept? The last rule that is about it counts. -/
def decision? (rules : List IgnoreRule) (isDir : Bool) (path : String) : Option Bool :=
  (rules.reverse.find? (·.appliesTo isDir path)).map (·.keeps)

/-- Is the entry left out to which some names lead from the root of a walk? The names and the rules
of the directories stand innermost first; the innermost rules that say something count. -/
def isIgnored (levels : List (List IgnoreRule)) (isDir : Bool) (names : List String) : Bool :=
  let decisions := levels.mapIdx fun i rules =>
    decision? rules isDir (Path.ofSegments (names.take (i + 1)).reverse)
  (decisions.findSome? id) == some false

end IgnoreRule

end TemplateCheck
