import Acceptor.Failure
import Acceptor.Report.Basic
import Acceptor.Text.Blank

/-!
Reading definitions, input files and reports.
-/

namespace Acceptor

structure DefinitionFile where
  filename : String
  content : String
  deriving DecidableEq, Repr

namespace Tree

def readText (tree : Tree) (path : String) : Except Failure String := do
  if !(← (tree.holds (Path.ofString path)).mapError Failure.access) then
    throw (.fileNotFound path)
  match ← (tree.read path).mapError Failure.access with
  | .picture _ => throw (.notText path 0)
  | .bytes bytes =>
      match Text.Utf8.decode bytes with
      | .error offset => throw (.notText path offset)
      | .ok text => return String.ofList (Text.unifyNewlines text)

def readDefinition (tree : Tree) (path : String) : Except Failure DefinitionFile := do
  let content ← tree.readText path
  return { filename := (Path.ofString path).name, content }

/-- The lines of an input text.  Blanks at either end of the whole text do not count. -/
def inputLines (text : String) : List String :=
  match Text.strip text.toList with
  | [] => []
  | text => (Text.lines text).map String.ofList

def readInput (tree : Tree) (path : String) : Except Failure Batch := do
  let content ← tree.readText path
  return { filename := (Path.ofString path).name, lines := inputLines content }

/-- Why a report comes to nothing whose bytes are no text from an offset on. -/
def reportDecodeFailure (path : String) (bytes : List UInt8) (offset : Nat) : Failure :=
  match Text.Utf8.Fault.of? (bytes.drop offset) with
  | some fault => .undecodable offset fault
  | none => .notText path offset

def readReport (tree : Tree) (path : String) : Except Failure Report := do
  if !(← (tree.holds (Path.ofString path)).mapError Failure.access) then
    throw (.reportNotFound path)
  match ← (tree.read path).mapError Failure.access with
  | .picture _ => throw (.notText path 0)
  | .bytes bytes =>
      match Text.Utf8.decode bytes with
      | .error offset => throw (reportDecodeFailure path bytes offset)
      | .ok text =>
          let value ← (Json.read (String.ofList text)).mapError Failure.json
          (Report.ofJson value).mapError Failure.record

end Tree

end Acceptor
