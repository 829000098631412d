import Acceptor.Definition
import Acceptor.Files.Tree
import Acceptor.Json.Reader
import Acceptor.Report.Frame
import Acceptor.Report.Record
import Acceptor.Settings
import Acceptor.Text.Utf8.Fault

/-!
Failures: why a step of a session or of a command comes to nothing.
-/

namespace Acceptor

inductive Failure.Family where
  /-- A definition gives no automaton. -/
  | definition
  /-- A value is not what it should be. -/
  | value
  /-- Something was asked for too early. -/
  | state
  | missingFile
  | directory
  | notDirectory
  /-- Any other refusal of the file system. -/
  | system
  | missingField
  | emptyTrace
  | json
  /-- A JSON text is nested too deep. -/
  | depth
  /-- Bytes are no text. -/
  | encoding
  /-- A value was asked for and left void. -/
  | void
  deriving DecidableEq, Repr

def AccessError.family : AccessError → Failure.Family
  | notFound _ => .missingFile
  | isDirectory _ => .directory
  | notDirectory _ => .notDirectory
  | nameTooLong _ => .system
  | nullByte => .value

/-- A refusal by a library in its own words, of a family as far as callers tell families apart. -/
structure LibraryFault where
  family : Failure.Family
  message : String
  deriving DecidableEq, Repr

inductive Failure where
  | access (error : AccessError)
  | fileNotFound (path : String)
  | reportNotFound (path : String)
  /-- The file is no text; `offset` counts the bytes before the first bad sequence. -/
  | notText (path : String) (offset : Nat)
  /-- The report is no text; `offset` counts the bytes before the fault. -/
  | undecodable (offset : Nat) (fault : Text.Utf8.Fault)
  | settings (fault : Settings.Fault)
  | definition (error : LoadError)
  | json (fault : Json.Fault)
  | record (fault : RecordFault)
  | noAutomaton
  | noInput
  | noInputFile
  | emptyName (fault : Path.EmptyName)
  | output (fault : Report.OutputFault)
  | frame (fault : Frame.Fault)
  | library (fault : LibraryFault)
  /-- The number of workers is asked for and left void. -/
  | noWorkerNumber
  /-- The path of the input file is left void. -/
  | noInputPath
  deriving DecidableEq, Repr

namespace Failure

def emptyNameMessage (path : Path) : String :=
  "PosixPath(" ++ Text.quote path.toString ++ ") has an empty name"

def message : Failure → String
  | access error => error.message
  | fileNotFound path => "File not found: " ++ path
  | reportNotFound path => "Report file not found: " ++ path
  | notText path offset =>
      path ++ " is not valid UTF-8 text (byte offset " ++ toString offset ++ ")"
  | undecodable offset fault => fault.message offset
  | settings fault => fault.message
  | definition error => error.message
  | json fault => fault.message
  | record fault => fault.message
  | noAutomaton => "no DFA loaded"
  | noInput => "no input loaded"
  | noInputFile => "no input file loaded"
  | emptyName fault => emptyNameMessage fault.path
  | output fault => fault.message
  | frame fault => fault.message
  | library fault => fault.message
  | noWorkerNumber => "'<=' not supported between instances of 'list' and 'int'"
  | noInputPath => "expected str, bytes or os.PathLike object, not list"

def family : Failure → Family
  | access error => error.family
  | fileNotFound _ => .missingFile
  | reportNotFound _ => .missingFile
  | notText _ _ => .value
  | undecodable _ _ => .encoding
  | settings _ => .value
  | definition (.unbuildable _) => .value
  | definition _ => .definition
  | json .malformed => .json
  | json (.longInteger _) => .value
  | json (.tooDeep _) => .depth
  | record (.missing _) => .missingField
  | record _ => .value
  | noAutomaton => .state
  | noInput => .state
  | noInputFile => .state
  | emptyName _ => .value
  | output _ => .value
  | frame .lengthMismatch => .value
  | frame .emptyTrace => .emptyTrace
  | library fault => fault.family
  | noWorkerNumber => .void
  | noInputPath => .void

/-- Failures that the command line reports by itself; the others end it. -/
def isReported (failure : Failure) : Bool :=
  match failure.family with
  | .missingFile | .value | .definition | .json | .encoding => true
  | _ => false

end Failure

end Acceptor
