import TemplateCheck.FileTree.Search
import TemplateCheck.Ignore

/-!
# Walking a directory tree

* `Walk.filesBelow` — the regular files below a directory, depth first and by name;
* `Walk.faultAbove?` — a malformed line in an ignore file above a directory;
* `Walk.files` — the regular files below a root, or the root if it is one.

A link to a file counts as a file; a link to a directory is not followed, unless it is the root. In
the place of a directory that cannot be listed stands the fault.

Where ignore files count, those above the root are read as well. Their rules leave out nothing, but
a malformed line in one of them is a fault that stands in front of the files. At the root and below
it a malformed line says nothing.
-/

namespace TemplateCheck.Walk

open FileTree (Node)

/-- The rules of one more directory, if ignore files count. -/
def deeper (top : Node) (gitignore : Bool) (path : String) (levels : List (List IgnoreRule)) :
    List (List IgnoreRule) :=
  if gitignore then IgnoreRule.inDir top path :: levels else levels

mutual

/-- The paths of the regular files at or below an entry with a path, to which some names lead from
the root. -/
def filesAt (top : Node) (gitignore : Bool) (levels : List (List IgnoreRule))
    (names : List String) (path : String) : Node → List (Except FileFault String)
  | .file _ => [.ok path]
  | .link _ => if FileTree.isFile top path then [.ok path] else []
  | .dir entries =>
    if FileTree.isTooLong path then [.error .nameTooLong]
    else filesBelow top gitignore (deeper top gitignore path levels) names path entries

/-- The paths of the regular files at or below the entries of a directory. -/
def filesBelow (top : Node) (gitignore : Bool) (levels : List (List IgnoreRule))
    (names : List String) (path : String) : List (String × Node) → List (Except FileFault String)
  | [] => []
  | (name, node) :: rest =>
    let here :=
      if IgnoreRule.isIgnored levels node.isDir (name :: names) then []
      else filesAt top gitignore levels (name :: names) (Path.join path name) node
    here ++ filesBelow top gitignore levels names path rest

end

/-- The names from the root directory to a place, the last one first. -/
def namesUp (place : FileTree.Place) : List String :=
  place.above.map (·.1)

/-- The directories above a place, outermost first. -/
def dirsAbove (place : FileTree.Place) : List String :=
  ((Search.ancestors (namesUp place)).tail.map Path.ofNames).reverse

/-- What is wrong with an ignore file above a place. None is looked at where the place has too long
a path without links. -/
def faultAbove? (top : Node) (place : FileTree.Place) : Option Glob.Fault :=
  if FileTree.isTooLong (Path.ofNames (namesUp place)) then none
  else (dirsAbove place).findSome? (IgnoreRule.faultIn? top)

/-- What a walk from a place comes upon before the first file. -/
def ahead (top : Node) (gitignore : Bool) (place : FileTree.Place) :
    List (Except FileFault String) :=
  if gitignore && place.node.isDir then
    match faultAbove? top place with
    | some fault => [.error (.other fault.message)]
    | none => []
  else []

/-- The paths of the regular files below the directory `root`, each beginning with the root as it
is spelled; or the root itself, if it is a file. Ignore files count if `gitignore`. -/
def files (top : Node) (root : String) (gitignore : Bool) : List (Except FileFault String) :=
  match FileTree.resolve top root with
  | .error fault => [.error fault]
  | .ok place => ahead top gitignore place ++ filesAt top gitignore [] [] root place.node

end TemplateCheck.Walk
