import Acceptor.Files.Read
import Acceptor.Json.Printer

/-!
Writing verdict files and reports.
-/

namespace Acceptor.Tree

def writeVerdicts (tree : Tree) (report : Report) (path : Path) : Except Failure Tree := do
  -- The report is looked at before the path.
  let text ← report.output.mapError Failure.output
  (tree.write path.toString (.ofText text)).mapError Failure.access

def writeReport (tree : Tree) (report : Report) (path : String) : Except Failure Tree :=
  (tree.write path (.ofText report.toJson.print)).mapError Failure.access

end Acceptor.Tree
