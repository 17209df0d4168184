import TemplateCheck.FileTree.Listing
import TemplateCheck.Json.Reader
import TemplateCheck.Program

/-!
# The executable

The arguments are those of the program. The standard input describes the surroundings as a JSON
object: `tree` is a listing of the files, `directory` the working directory, and `variables` an
object of texts.
-/

namespace TemplateCheck

/-- The surroundings that a JSON object describes. -/
def Surroundings.ofJson (j : Json) : Surroundings where
  files :=
    match j.get? "tree" with
    | some (.arr entries) => FileTree.addAllListed "/" (.dir []) entries
    | _ => .dir []
  directory :=
    match j.get? "directory" with
    | some (.str path) => path
    | _ => "/"
  environment name :=
    match (j.get? "variables").bind (·.get? name) with
    | some (.str value) => some value
    | _ => none

end TemplateCheck

open TemplateCheck in
/-- Reads the surroundings, runs the program and writes what it leaves. -/
def main (words : List String) : IO UInt32 := do
  let described ← (← IO.getStdin).readToEnd
  match Json.read described with
  | .error fault =>
    IO.eprintln s!"standard input: {fault.message}"
    return 1
  | .ok j =>
    let outcome := Program.main (.ofJson j) words
    IO.print outcome.output
    IO.eprint outcome.messages
    return outcome.code.toUInt32
