import TemplateCheck.Decode.OfJson
import TemplateCheck.Main
import TemplateCheck.Proofs.FileTree
import TemplateCheck.Proofs.Text.ByteOrder
import TemplateCheck.Proofs.Walk
import TemplateCheck.Proofs.KeyValues
import TemplateCheck.Proofs.Samples
import TemplateCheck.Proofs.Snapshot
import TemplateCheck.Proofs.Scan.Afresh
import TemplateCheck.Proofs.Scan.Sort
import TemplateCheck.Proofs.Inventory
import TemplateCheck.Proofs.Scan.Results
import TemplateCheck.Proofs.Scan.Evaluation
import TemplateCheck.Proofs.Scan.Names
import TemplateCheck.Proofs.Scan.Formats
import TemplateCheck.Proofs.Scan.Locality
import TemplateCheck.Proofs.Scan.Placement
import TemplateCheck.Proofs.Program.Ending
import TemplateCheck.Proofs.CommandLine
import TemplateCheck.Proofs.Precedence
import TemplateCheck.Proofs.Discovery
import TemplateCheck.Proofs.Scan.Pruning
import TemplateCheck.Proofs.Template.Use
import TemplateCheck.Proofs.Template.Filter
import TemplateCheck.Proofs.Template.Run
import TemplateCheck.Proofs.Template.Eval
import TemplateCheck.Proofs.Template.Exec
import TemplateCheck.Proofs.Relaxation
import TemplateCheck.Proofs.Text.Expansion
import TemplateCheck.Proofs.Registration
import TemplateCheck.Proofs.Template.Alone
import TemplateCheck.Proofs.Template.Renamed
import TemplateCheck.Proofs.Naming
import TemplateCheck.Proofs.Template.Cursor
import TemplateCheck.Proofs.Template.Layout
import TemplateCheck.Proofs.Template.Reading
import TemplateCheck.Proofs.Template.Rendering
import TemplateCheck.Proofs.Interpolation
import TemplateCheck.Proofs.Text.Plain
import TemplateCheck.Proofs.Essence
import TemplateCheck.Proofs.Report.Document
import TemplateCheck.Proofs.Report.Console
import TemplateCheck.Proofs.Report.Verbose
import TemplateCheck.Proofs.Sharing
import TemplateCheck.Proofs.Glob.Match
import TemplateCheck.Proofs.Glob.Reading
import TemplateCheck.Proofs.Glob.Separator
import TemplateCheck.Proofs.Glob.Depth
import TemplateCheck.Proofs.Traversal
import TemplateCheck.Proofs.Path.Cleaning
import TemplateCheck.Proofs.SearchOrder
import TemplateCheck.Proofs.Ownership
