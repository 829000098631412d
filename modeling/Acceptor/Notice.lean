import Acceptor.Batch
import Acceptor.Definition

/-!
Notices: what is noted for the log on the way.
-/

namespace Acceptor

inductive Notice.Level where
  | debug
  | info
  | warning
  deriving DecidableEq, Repr

def Notice.Level.name : Notice.Level → String
  | .debug => "DEBUG"
  | .info => "INFO"
  | .warning => "WARNING"

inductive Notice where
  | readDefinition (path : String) (characters : Nat)
  | draftRead (states symbols rules : Nat)
  | checkFailed (check : Check) (issues : Nat)
  | warned (issue : Issue)
  | definitionLoaded (filename : String) (states symbols warnings : Nat)
  | readInput (lines : Nat) (path : String)
  | batchRun (filename : String) (lines : Nat)
  | batchCancelled (filename : String) (done lines : Nat)
  | verdictsWritten (verdicts : Nat) (path : String)
  deriving DecidableEq, Repr

namespace Notice

def level : Notice → Level
  | readDefinition _ _ => .info
  | draftRead _ _ _ => .debug
  | checkFailed _ _ => .debug
  | warned _ => .info
  | definitionLoaded _ _ _ _ => .info
  | readInput _ _ => .info
  | batchRun _ _ => .debug
  | batchCancelled _ _ _ => .warning
  | verdictsWritten _ _ => .info

def origin : Notice → String
  | readDefinition _ _ => "dfalab.io.files"
  | draftRead _ _ _ => "dfalab.core.parser"
  | checkFailed _ _ => "dfalab.core.validator"
  | warned _ => "dfalab.core.validator"
  | definitionLoaded _ _ _ _ => "dfalab.core.session"
  | readInput _ _ => "dfalab.io.files"
  | batchRun _ _ => "dfalab.core.simulation"
  | batchCancelled _ _ _ => "dfalab.core.simulation"
  | verdictsWritten _ _ => "dfalab.io.files"

def checkName : Check → String
  | .states => "_check_states"
  | .alphabet => "_check_alphabet"
  | .start => "_check_start"
  | .accepting => "_check_accepting"
  | .endpoints => "_check_endpoints"
  | .determinism => "_check_determinism"

def text : Notice → String
  | readDefinition path characters =>
      "read definition " ++ path ++ " (" ++ toString characters ++ " bytes)"
  | draftRead states symbols rules =>
      "parsed draft: " ++ toString states ++ " states, " ++ toString symbols ++
        " symbols, " ++ toString rules ++ " transitions"
  | checkFailed check issues =>
      "validation failed at " ++ checkName check ++ " with " ++ toString issues ++ " issue(s)"
  | warned issue => "validation warning: " ++ issue.render
  | definitionLoaded filename states symbols warnings =>
      "loaded " ++ filename ++ ": " ++ toString states ++ " states, " ++ toString symbols ++
        " symbols, " ++ toString warnings ++ " warning(s)"
  | readInput lines path => "read " ++ toString lines ++ " input line(s) from " ++ path
  | batchRun filename lines =>
      "batch " ++ Text.quote filename ++ ": simulated " ++ toString lines ++ " lines"
  | batchCancelled filename done lines =>
      "batch " ++ Text.quote filename ++ " cancelled after " ++ toString done ++ " of " ++
        toString lines ++ " lines"
  | verdictsWritten verdicts path =>
      "wrote " ++ toString verdicts ++ " verdict(s) to " ++ path

def render (notice : Notice) : String :=
  notice.level.name ++ " " ++ notice.origin ++ ": " ++ notice.text

/-- Shown even to those who did not ask for details. -/
def isUrgent (notice : Notice) : Bool :=
  notice.level = .warning

def ofValidation (policy : Policy) (draft : Draft) : List Notice :=
  match draft.failure? with
  | some (check, issues) => [checkFailed check issues.length]
  | none =>
      match draft.validate policy with
      | .error _ => []
      | .ok warnings => warnings.map warned

def ofDefinition (marker : CommentMarker) (policy : Policy) (text : String) : List Notice :=
  match Draft.ofText marker text with
  | .error _ => []
  | .ok draft =>
      -- A text without significant lines is not read in either form.
      (if Line.significant marker text.toList = [] then []
        else [draftRead draft.states.length draft.alphabet.length draft.rules.length]) ++
        ofValidation policy draft

def ofReport (report : Report) : Notice :=
  let lines := report.verdicts.length
  if report.cancelled then batchCancelled report.filename report.given.length lines
  else batchRun report.filename lines

end Notice

end Acceptor
