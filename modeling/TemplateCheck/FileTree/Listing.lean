import TemplateCheck.FileTree.Basic
import TemplateCheck.Json.Value
import TemplateCheck.Text.Utf8

/-!
# Listings of file trees

A file tree can be described by a list of its files, directories and links, one after the other.
Each is a JSON object with a `path` and one of

* `text` — a file with this text;
* `hex` — a file with these bytes, two hexadecimal digits each;
* `symlink` — a link to this path;
* `dir` — a directory.
-/

namespace TemplateCheck.FileTree

/-- The value of a hexadecimal digit. -/
def hexValue (c : Char) : Nat :=
  if c.isDigit then c.toNat - '0'.toNat
  else if 'a' ≤ c ∧ c ≤ 'f' then c.toNat - 'a'.toNat + 10
  else c.toNat - 'A'.toNat + 10

/-- The bytes that pairs of hexadecimal digits stand for. -/
def hexBytes : List Char → List UInt8
  | a :: b :: rest => UInt8.ofNat (hexValue a * 16 + hexValue b) :: hexBytes rest
  | _ => []

/-- The node that an entry of a listing describes. -/
def Node.ofListed (entry : Json) : Node :=
  match entry.get? "text", entry.get? "hex", entry.get? "symlink" with
  | some (.str text), _, _ => .file (Text.Utf8.encode text)
  | _, some (.str digits), _ => .file (hexBytes digits.toList)
  | _, _, some (.str target) => .link target
  | _, _, _ => .dir []

/-- The path of an entry of a listing. -/
def listedPath (entry : Json) : String :=
  match entry.get? "path" with
  | some (.str path) => path
  | _ => ""

/-- The tree with the entry of a listing, whose path is seen from the directory `base`. -/
def addListed (base : String) (top : Node) (entry : Json) : Node :=
  write top (Path.join base (listedPath entry)) (Node.ofListed entry)

/-- The tree with all the entries of a listing. -/
def addAllListed (base : String) (top : Node) (entries : List Json) : Node :=
  entries.foldl (addListed base) top

end TemplateCheck.FileTree
