import Acceptor.Automaton.Verdict

/-!
Batches of input lines, and reports: the verdicts on the lines of a batch.
-/

namespace Acceptor

structure Batch where
  filename : String
  lines : List String
  deriving DecidableEq, Repr

/-- The verdicts on the lines of a batch, in order.  Only a cancelled report leaves out
verdicts. -/
structure Report where
  filename : String
  verdicts : List (Option Verdict)
  cancelled : Bool := false
  complete_or_cancelled : (verdicts.all Option.isSome || cancelled) = true
  deriving DecidableEq, Repr

/-- A verdict is left out though the report is not cancelled. -/
inductive Report.Fault where
  | skippedLine
  deriving DecidableEq, Repr

/-- What is said of a report that leaves out a verdict without being cancelled. -/
def Report.Fault.message : Report.Fault → String
  | .skippedLine => "only a cancelled report may contain skipped lines"

def Report.make (filename : String) (verdicts : List (Option Verdict)) (cancelled : Bool) :
    Except Report.Fault Report :=
  if complete_or_cancelled : (verdicts.all Option.isSome || cancelled) = true then
    .ok { filename, verdicts, cancelled, complete_or_cancelled }
  else
    .error .skippedLine

namespace Report

def isComplete (report : Report) : Bool :=
  report.verdicts.all Option.isSome

def given (report : Report) : List Verdict :=
  report.verdicts.filterMap id

inductive OutputFault where
  | cancelled
  deriving DecidableEq, Repr

def OutputFault.message : OutputFault → String
  | .cancelled => "cannot format a cancelled report"

def outputLine (verdict : Verdict) : String :=
  (if verdict.accepted then "VALID" else "INVALID") ++ "\n"

def output (report : Report) : Except OutputFault String :=
  if report.cancelled then .error .cancelled
  else .ok (String.join (report.given.map outputLine))

end Report

end Acceptor
