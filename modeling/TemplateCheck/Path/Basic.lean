/-!
# Path texts

Paths as texts with `/` between their segments, read component by component.

* `splitSlash`, `joinSlash` — a text and its segments;
* `Path.components` — what a path says to do, one step at a time: repeated slashes, inner `.`
  segments and a trailing slash say nothing;
* `Path.join` — a path followed from another one;
* `Path.relativeName` — the name of a file below a root directory;
* `Path.extension?` — the last dotted part of a file name.

Paths are made of file names that are UTF-8. The text of a relative name therefore shows every
character of the names in it, and no character stands for bytes that are no text.
-/

namespace TemplateCheck.Path

/-! ### Segments -/

/-- The pieces of a text between its slashes, empty ones included. -/
def splitSlash : List Char → List (List Char)
  | [] => [[]]
  | c :: cs =>
    if c = '/' then [] :: splitSlash cs
    else
      match splitSlash cs with
      | [] => [[c]]
      | piece :: pieces => (c :: piece) :: pieces

/-- Pieces with a slash between each two. -/
def joinSlash : List (List Char) → List Char
  | [] => []
  | [piece] => piece
  | piece :: next :: pieces => piece ++ '/' :: joinSlash (next :: pieces)

/-- The segments of a path. -/
def segments (path : String) : List String :=
  (splitSlash path.toList).map String.ofList

/-- The path with the given segments. -/
def ofSegments (pieces : List String) : String :=
  String.ofList (joinSlash (pieces.map String.toList))

theorem splitSlash_ne_nil (cs : List Char) : splitSlash cs ≠ [] := by
  cases cs with
  | nil => simp [splitSlash]
  | cons c cs =>
    simp only [splitSlash]
    split
    · simp
    · split <;> simp

theorem joinSlash_splitSlash (cs : List Char) : joinSlash (splitSlash cs) = cs := by
  induction cs with
  | nil => rfl
  | cons c cs ih =>
    simp only [splitSlash]
    cases h : splitSlash cs with
    | nil => exact absurd h (splitSlash_ne_nil cs)
    | cons piece pieces =>
      rw [h] at ih
      by_cases hc : c = '/'
      · simp [hc, joinSlash, ih]
      · cases pieces with
        | nil => simp_all [joinSlash]
        | cons next pieces => simp_all [joinSlash]

/-! ### Components -/

/-- One step of a path. -/
inductive Component where
  | root
  | current
  | parent
  | name (s : String)
deriving Repr, DecidableEq

/-- Does the path begin at the root directory? -/
def isAbsolute (path : String) : Bool :=
  path.toList.head? == some '/'

/-- What a segment that is not the first one says. -/
def Component.ofSegment? (segment : String) : Option Component :=
  if segment = "" ∨ segment = "." then none
  else if segment = ".." then some .parent
  else some (.name segment)

/-- The components of a path. -/
def components (path : String) : List Component :=
  let pieces := segments path
  let front :=
    if isAbsolute path then [.root]
    else if pieces.head? = some "." then [.current]
    else []
  front ++ pieces.filterMap Component.ofSegment?

/-- The spelling of a component. -/
def Component.text : Component → String
  | .root => "/"
  | .current => "."
  | .parent => ".."
  | .name s => s

/-! ### Joining -/

/-- The path `rest` followed from the directory `base`. -/
def join (base rest : String) : String :=
  if isAbsolute rest then rest
  else
    match base.toList.getLast? with
    | none => rest
    | some '/' => base ++ rest
    | some _ => base ++ "/" ++ rest

/-- The path `path` followed from the working directory `cwd`, without `.` components. Its
`..` components and a trailing slash stay, as do two leading slashes. An empty path leads
nowhere. -/
def absolute? (cwd path : String) : Option String :=
  if path = "" then none
  else
    let parts := (components path).filter (· ≠ .current)
    let doubled := path.startsWith "//" && !path.startsWith "///"
    let (base, parts) :=
      if doubled then ("//", parts.drop 1)
      else if isAbsolute path then ("", parts)
      else (cwd, parts)
    let followed := parts.foldl (fun p c => join p c.text) base
    some (if path.toList.getLast? = some '/' then join followed "" else followed)

/-! ### Names -/

/-- A segment that says nothing. -/
def isIdle (segment : String) : Bool :=
  segment == "" || segment == "."

/-- The segments of `path` after the leading ones that spell the components `parts`. -/
def afterPrefix (parts : List Component) (pieces : List String) : Option (List String) :=
  match parts, pieces with
  | [], pieces => some pieces
  | _ :: _, [] => none
  | part :: parts, piece :: pieces =>
    match Component.ofSegment? piece with
    | none => afterPrefix (part :: parts) pieces
    | some found => if found = part then afterPrefix parts pieces else none

/-- The rest of `path` after the prefix `root`, component by component. The rest keeps its
spelling, without separators and `.` segments at its two ends. -/
def stripPrefix? (root path : String) : Option String :=
  let inner := segments path
  let trimEnd (pieces : List String) := (pieces.reverse.dropWhile isIdle).reverse
  match components root, components path with
  | [], [] => some ""
  | [], part :: _ =>
    match part with
    | .root => some ("/" ++ ofSegments (trimEnd (inner.drop 1)))
    | .current => some (ofSegments ("." :: trimEnd (inner.drop 1)))
    | _ => some (ofSegments (trimEnd inner))
  | .root :: parts, .root :: _ => rest parts (inner.drop 1) trimEnd
  | .current :: parts, .current :: _ => rest parts (inner.drop 1) trimEnd
  | .parent :: _, .parent :: _ => rest (components root) inner trimEnd
  | .name _ :: _, .name _ :: _ => rest (components root) inner trimEnd
  | _, _ => none
where
  /-- The trimmed segments after those that spell `parts`. -/
  rest (parts : List Component) (inner : List String) (trimEnd : List String → List String) :
      Option String :=
    (afterPrefix parts inner).map fun pieces =>
      ofSegments (trimEnd (pieces.dropWhile isIdle))

/-- The name of the file `path` below `root`, with `/` between its parts. A path outside the
root is its own name. -/
def relativeName (root path : String) : String :=
  String.ofList (((stripPrefix? root path).getD path).toList.map
    fun c => if c == '\\' then '/' else c)

/-- The file name at the end of a path. -/
def fileName? (path : String) : Option String :=
  match (components path).getLast? with
  | some (.name s) => some s
  | _ => none

/-- The part of a text before its last occurrence of `mark`, and the part after it. -/
def splitLast? (mark : Char) (s : String) : Option (String × String) :=
  let reversed := s.toList.reverse
  match reversed.dropWhile (· ≠ mark) with
  | [] => none
  | _ :: before =>
    some (String.ofList before.reverse, String.ofList (reversed.takeWhile (· ≠ mark)).reverse)

/-- What stands after the last dot of a file name, unless that dot is its first character. -/
def extension? (path : String) : Option String :=
  match fileName? path with
  | none => none
  | some name =>
    match splitLast? '.' name with
    | some (before, after) => if before = "" then none else some after
    | none => none

/-! ### Cleaned paths -/

/-- One component applied to the names walked so far, the last one first. Above the root
directory there is only the root directory. -/
def step (walked : List String) : Component → List String
  | .root => []
  | .current => walked
  | .parent => walked.tail
  | .name s => s :: walked

/-- The directory that a path means by its text alone, as its names, the last one first. -/
def cleaned (path : String) : List String :=
  (components path).foldl step []

/-- The absolute path with the given names, the last one first. -/
def ofNames (walked : List String) : String :=
  "/" ++ ofSegments walked.reverse

end TemplateCheck.Path
