import Acceptor.CommandLine.Invocation
import Acceptor.Libraries.Plain
import Acceptor.Session

/-!
What the commands do: from arguments and a file tree to an exit code, the texts on the two
output channels and the file tree afterwards.
-/

namespace Acceptor.CommandLine

structure Transcript where
  tree : Tree
  stdout : String := ""
  stderr : String := ""

namespace Transcript

def print (transcript : Transcript) (lines : List String) : Transcript :=
  { transcript with
    stdout := transcript.stdout ++ String.join (lines.map fun line => line ++ "\n") }

def complain (transcript : Transcript) (lines : List String) : Transcript :=
  { transcript with
    stderr := transcript.stderr ++ String.join (lines.map fun line => line ++ "\n") }

/-- Logs notices: all of them on request, else the urgent ones. -/
def log (transcript : Transcript) (verbose : Bool) (notices : List Notice) : Transcript :=
  transcript.complain
    ((notices.filter fun notice => verbose || notice.isUrgent).map Notice.render)

end Transcript

/-- How a command ends: with an exit code, or with a failure that it does not report. -/
inductive Ending where
  | exit (code : Nat)
  | failed (failure : Failure)
  deriving DecidableEq, Repr

structure Outcome where
  ending : Ending
  transcript : Transcript

def errorLine (message : String) : String :=
  "error: " ++ message

def warningLine (issue : Issue) : String :=
  "warning: " ++ issue.render

def conclude (transcript : Transcript) (failure : Failure) : Outcome :=
  if failure.isReported then
    ⟨.exit 2, transcript.complain [errorLine failure.message]⟩
  else
    ⟨.failed failure, transcript⟩

def Options.settings (options : Options) : Except Failure Settings :=
  match options.workers? with
  | some workers =>
      (Settings.make options.comment { strict := options.strict } workers).mapError
        Failure.settings
  | none => do
      -- The marker is checked before it is told that the number is left void.
      let _ ← (CommentMarker.ofString options.comment).mapError Failure.settings
      throw .noWorkerNumber

def check (options : Options) (settings : Settings) (tree : Tree) (path : String) : Outcome :=
  let transcript : Transcript := { tree }
  match tree.readDefinition path with
  | .error failure => conclude transcript failure
  | .ok definition =>
      let transcript := transcript.log options.verbose
        (Session.readNotice path definition ::
          Notice.ofDefinition settings.marker settings.policy definition.content)
      match Definition.check settings.marker settings.policy definition.content with
      | .error issues =>
          ⟨.exit 1, transcript.print (issues.map fun issue => errorLine issue.render)⟩
      | .ok warnings =>
          ⟨.exit 0, transcript.print
            (warnings.map warningLine ++ [definition.filename ++ ": ok"])⟩

def resultLine (number : Nat) (line : String) (verdict : Verdict) : String :=
  toString number ++ ": " ++ Text.quote line ++ " " ++
    (if verdict.accepted then "VALID" else "INVALID") ++
    " [" ++ " ".intercalate verdict.trace ++ "]" ++
    match verdict.fault? with
    | none => ""
    | some fault => "  (" ++ fault.message ++ ")"

def resultLines (number : Nat) : List (String × Option Verdict) → List String
  | [] => []
  | (line, some verdict) :: rest => resultLine number line verdict :: resultLines (number + 1) rest
  | (_, none) :: rest => resultLines (number + 1) rest

def countLine (summary : Summary) : String :=
  "accepted=" ++ toString summary.accepted ++ " rejected=" ++ toString summary.rejected ++
    " errored=" ++ toString summary.errored ++ " total=" ++ toString summary.total

inductive Export where
  | verdicts
  | report (path : String)
  | frame (path : String)
  | picture (path : String)
  deriving DecidableEq, Repr

/-- A path, unless it is empty. -/
def given (path? : Option String) : Option String :=
  path?.filter (· ≠ "")

/-- The files that options ask for, in the order in which they are written. -/
def Options.exports (options : Options) : List Export :=
  (if options.save then [.verdicts] else []) ++
    ((given options.json?).map Export.report).toList ++
    ((given options.csv?).map Export.frame).toList ++
    ((given options.plot?).map Export.picture).toList

section

variable (libraries : Libraries)

def writeExport (options : Options) (session : Session) (batch : Batch) (report : Report)
    (transcript : Transcript) : Export → Except Failure Transcript
  | .verdicts => do
      let (path, tree) ← session.save transcript.tree report none
      let notice := Notice.verdictsWritten report.verdicts.length path.toString
      return ({ transcript with tree }.log options.verbose [notice]).print
        ["wrote " ++ path.toString]
  | .report path => do
      let tree ← transcript.tree.writeReport report path
      return { transcript with tree }
  | .frame path => do
      let rows ← (Frame.rows report (some batch)).mapError Failure.frame
      let tree ← (libraries.writeTable transcript.tree rows path).mapError Failure.library
      return { transcript with tree }
  | .picture path => do
      let chart := (Summary.ofReport report).chart report.filename
      let tree ← (libraries.writePicture transcript.tree chart path).mapError Failure.library
      return { transcript with tree }

def writeExports (options : Options) (session : Session) (batch : Batch) (report : Report)
    (transcript : Transcript) : List Export → Outcome
  | [] => ⟨.exit 0, transcript⟩
  | first :: rest =>
      match writeExport libraries options session batch report transcript first with
      | .error failure => conclude transcript failure
      | .ok transcript => writeExports options session batch report transcript rest

/-- Reports the verdicts on a batch and writes the files that options ask for. -/
def present (options : Options) (session : Session) (batch : Batch) (report : Report)
    (transcript : Transcript) : Outcome :=
  let transcript := transcript.print
    (resultLines 1 (batch.lines.zip report.verdicts) ++ [countLine (.ofReport report)])
  writeExports libraries options session batch report transcript options.exports

/-- Reads an input file and runs it on the active automaton of a session. -/
def runInput (options : Options) (session : Session) (transcript : Transcript) :
    (input? : Option String) → Outcome
  | none => conclude transcript .noInputPath
  | some input =>
      match transcript.tree.readInput input with
      | .error failure => conclude transcript failure
      | .ok batch =>
          let session := session.withInput batch (some (Path.ofString input))
          let transcript := transcript.log options.verbose
            [.readInput batch.lines.length input]
          match session.run none none with
          | .error failure => conclude transcript failure
          | .ok report =>
              present libraries options session batch report
                (transcript.log options.verbose [.ofReport report])

def run (options : Options) (settings : Settings) (tree : Tree) (definition : String)
    (input? : Option String) : Outcome :=
  let transcript : Transcript := { tree }
  let session : Session := { settings }
  match tree.readDefinition definition with
  | .error failure => conclude transcript failure
  | .ok file =>
      let transcript := transcript.log options.verbose
        (Session.readNotice definition file :: session.loadNotices file)
      match session.loadDefinition file with
      | .error failure =>
          if failure.family = .definition then
            ⟨.exit 1, transcript.complain [errorLine failure.message]⟩
          else
            conclude transcript failure
      | .ok session =>
          let warnings := (session.active?.map fun active => active.loaded.warnings).getD []
          runInput libraries options session (transcript.complain (warnings.map warningLine)) input?

def perform (invocation : Invocation) (tree : Tree) : Outcome :=
  match invocation.options.settings with
  | .error failure => conclude { tree } failure
  | .ok settings =>
      match invocation.command with
      | .check definition => check invocation.options settings tree definition
      | .run definition input? =>
          run libraries invocation.options settings tree definition input?

end

/-- The program: reads its arguments and carries out the command they call. -/
def execute (arguments : List String) (tree : Tree) (libraries : Libraries := .plain) : Outcome :=
  match Invocation.ofArguments arguments with
  | .error .help => ⟨.exit 0, { tree }⟩
  | .error refusal => ⟨.exit 2, ({ tree } : Transcript).complain [refusal.message]⟩
  | .ok invocation => perform libraries invocation tree

end Acceptor.CommandLine
