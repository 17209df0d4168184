import TemplateCheck.Path.Basic
import TemplateCheck.KeyMap.Basic

/-!
# File trees

A directory tree with regular files and symbolic links, and access to it by path.

* `FileFault` — why an access to a file failed;
* `Node` — a file, a link or a directory; the entries of a directory stand in name order;
* `resolve` — the node that a path leads to, through every link on the way;
* `bytesAt`, `isDir`, `isFile` — what programs ask of a path;
* `write`, `remove` — changes to a tree.

A path is followed segment by segment. At most 40 links are followed; a name has at most 255
bytes and a path fewer than 4096.

File names and the targets of links are texts: a tree holds no name whose bytes are not UTF-8.
-/

namespace TemplateCheck

/-- Why an access to a file failed. -/
inductive FileFault where
  | notFound
  | notDirectory
  | isDirectory
  | tooManyLinks
  | nameTooLong
  /-- A path holds a NUL character. -/
  | nulInPath
  /-- A path is empty where it has to lead somewhere. -/
  | emptyPath
  /-- A text file does not hold UTF-8. -/
  | notText
  /-- An output takes no more bytes. -/
  | outputFull
  /-- A fault told in words of its own. -/
  | other (words : String)
deriving Repr, DecidableEq

/-- The wording of a fault. -/
def FileFault.message : FileFault → String
  | .notFound => "No such file or directory (os error 2)"
  | .notDirectory => "Not a directory (os error 20)"
  | .isDirectory => "Is a directory (os error 21)"
  | .tooManyLinks => "Too many levels of symbolic links (os error 40)"
  | .nameTooLong => "File name too long (os error 36)"
  | .nulInPath => "file name contained an unexpected NUL byte"
  | .emptyPath => "cannot make an empty path absolute"
  | .notText => "stream did not contain valid UTF-8"
  | .outputFull => "write limit reached"
  | .other words => words

/-- Does the fault say that there is nothing under a path? -/
def FileFault.isAbsence : FileFault → Bool
  | .notFound => true
  | .notDirectory => true
  | _ => false

end TemplateCheck

namespace TemplateCheck.FileTree

/-- A file with its bytes, a link with its text, or a directory with its entries. -/
inductive Node where
  | file (bytes : List UInt8)
  | link (target : String)
  | dir (entries : List (String × Node))
deriving Inhabited

/-- Is the node a directory? -/
def Node.isDir : Node → Bool
  | .dir _ => true
  | _ => false

/-! ### Following paths -/

/-- How many links may be followed on the way to a node. -/
def maxLinks : Nat := 40

/-- How many bytes a name may have. -/
def maxName : Nat := 255

/-- Has a path more bytes than may be asked for? -/
def isTooLong (path : String) : Bool :=
  decide (4096 ≤ path.utf8ByteSize)

/-- A place in a tree: the directories above it, each with the name taken from it, nearest
first, and the node itself. -/
structure Place where
  above : List (String × List (String × Node))
  node : Node

/-- The names from the root directory to a place. -/
def Place.names (place : Place) : List String :=
  place.above.reverse.map (·.1)

/-- The place one directory up; the root directory is above itself. -/
def Place.up (place : Place) : Place :=
  match place.above with
  | [] => place
  | (_, entries) :: above => ⟨above, .dir entries⟩

/-- Where a way ends that follows no link: at its end, or in front of a link, with what is left
of the way behind the link. -/
inductive Stretch where
  | arrived (place : Place)
  | atLink (place : Place) (target : String) (rest : List String)

/-- Follow `pieces` from `place` up to the first link. A path that goes on behind a file, if only
by a slash, leads nowhere. -/
def stretch (place : Place) : List String → Except FileFault Stretch
  | [] => .ok (.arrived place)
  | piece :: rest =>
    match place.node with
    | .dir entries =>
      if piece = "" ∨ piece = "." then stretch place rest
      else if piece = ".." then stretch place.up rest
      else if piece.utf8ByteSize > maxName then .error .nameTooLong
      else
        match entries.lookup piece with
        | none => .error .notFound
        | some (.link target) => .ok (.atLink place target rest)
        | some node => stretch ⟨(piece, entries) :: place.above, node⟩ rest
    | _ => .error .notDirectory

/-- Follow `pieces` from `place`, through at most `links` links, in the tree with the root
directory `top`. -/
def follow (top : Node) (links : Nat) (place : Place) (pieces : List String) :
    Except FileFault Place :=
  match stretch place pieces with
  | .error fault => .error fault
  | .ok (.arrived place) => .ok place
  | .ok (.atLink place target rest) =>
    match links with
    | 0 => .error .tooManyLinks
    | links + 1 =>
      if target = "" then .error .notFound
      else
        let start := if Path.isAbsolute target then ⟨[], top⟩ else place
        follow top links start (Path.segments target ++ rest)

/-- The place of the absolute path `path`. -/
def resolve (top : Node) (path : String) : Except FileFault Place :=
  if path.toList.contains '\x00' then .error .nulInPath
  else if path = "" then .error .notFound
  else if isTooLong path then .error .nameTooLong
  else follow top maxLinks ⟨[], top⟩ (Path.segments path)

/-! ### Questions -/

/-- The bytes of the file at a path. -/
def bytesAt (top : Node) (path : String) : Except FileFault (List UInt8) := do
  match (← resolve top path).node with
  | .file bytes => return bytes
  | _ => .error .isDirectory

/-- Does the path lead to a directory? -/
def isDir (top : Node) (path : String) : Except FileFault Bool :=
  (resolve top path).map (·.node.isDir)

/-- Does the path lead to a regular file? -/
def isFile (top : Node) (path : String) : Bool :=
  match resolve top path with
  | .ok ⟨_, .file _⟩ => true
  | _ => false

/-! ### Changes -/

/-- The names of the directories from the root to the place where the last of `pieces` is to
be found, and that last name, after following every link before it. A missing directory is
named as the path names it. -/
def parentNames (top : Node) (pieces : List String) : List String × Option String :=
  match pieces.reverse with
  | [] => ([], none)
  | last :: before =>
    let walked := before.reverse
    let known (taken : List String) : List String :=
      match follow top maxLinks ⟨[], top⟩ taken with
      | .ok place => place.names
      | .error _ => taken
    -- the longest part of the way that exists is resolved, the rest is taken as it stands
    let n := ((List.range (walked.length + 1)).filter fun k =>
      match follow top maxLinks ⟨[], top⟩ (walked.take k) with
      | .ok _ => true
      | .error _ => false).getLast?.getD 0
    (known (walked.take n) ++ walked.drop n, some last)

/-- Put `node` at the end of the way `names`, with directories wherever one is missing. -/
def put (node : Node) : List String → Node → Node
  | [], _ => node
  | name :: names, .dir entries =>
    .dir (insertEntry name (put node names ((entries.lookup name).getD (.dir []))) entries)
  | name :: names, _ => .dir [(name, put node names (.dir []))]

/-- The tree with `node` at `path`, made with every directory on the way. A file is written
through a link, and a directory that exists is kept. -/
def write (top : Node) (path : String) (node : Node) : Node :=
  let pieces := (Path.segments path).filter (· ≠ "")
  let (way, last) := parentNames top pieces
  match last with
  | none => top
  | some last =>
    match node, resolve top path with
    | .file _, .ok place => put node place.names top
    | .dir _, .ok place => if place.node.isDir then top else put node (way ++ [last]) top
    | _, _ => put node (way ++ [last]) top

/-- The tree without what stands at the end of the way `names`. -/
def removeAt : List String → Node → Node
  | [name], .dir entries => .dir (entries.filter (·.1 ≠ name))
  | name :: names, .dir entries =>
    match entries.lookup name with
    | some child => .dir (insertEntry name (removeAt names child) entries)
    | none => .dir entries
  | _, node => node

/-- The tree without the node at `path`: a link itself, a file or a whole directory. -/
def remove (top : Node) (path : String) : Node :=
  let pieces := (Path.segments path).filter (· ≠ "")
  let (way, last) := parentNames top pieces
  match last with
  | none => top
  | some last => removeAt (way ++ [last]) top

end TemplateCheck.FileTree
