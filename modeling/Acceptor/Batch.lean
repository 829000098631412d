import Acceptor.Automaton.Run
import Acceptor.Report.Basic
import Acceptor.Settings

/-!
Running all lines of a batch.

Lines are independent.  One worker runs them in order and stops when the batch is
cancelled; several workers run each as a task of its own and put the verdicts in order
afterwards.  Before each line it is asked whether the batch is cancelled: with
`cancelAfter? = some n` the first `n` questions are answered with no and the others with
yes, with `none` all are answered with no.
-/

namespace Acceptor.Batch

def isCancelled (cancelAfter? : Option Nat) (question : Nat) : Bool :=
  match cancelAfter? with
  | none => false
  | some allowed => allowed ≤ question

/-- Runs lines in order until the batch is cancelled. -/
def runInOrder (automaton : Automaton) (cancelAfter? : Option Nat) (question : Nat) :
    List String → List (Option Verdict)
  | [] => []
  | line :: rest =>
      if isCancelled cancelAfter? question then
        none :: rest.map fun _ => none
      else
        some (automaton.simulate line) ::
          runInOrder automaton cancelAfter? (question + 1) rest

def runTask (automaton : Automaton) (cancelAfter? : Option Nat) (line : String)
    (question : Nat) : Option Verdict :=
  if isCancelled cancelAfter? question then none else some (automaton.simulate line)

def runTasks (automaton : Automaton) (cancelAfter? : Option Nat) (lines : List String) :
    List (Option Verdict) :=
  lines.zipIdx.map fun (line, question) => runTask automaton cancelAfter? line question

def verdicts (automaton : Automaton) (workers : Workers) (cancelAfter? : Option Nat)
    (lines : List String) : List (Option Verdict) :=
  if workers.count = 1 ∨ lines.length ≤ 1 then
    runInOrder automaton cancelAfter? 0 lines
  else
    runTasks automaton cancelAfter? lines

/-- Runs a batch.  The report is cancelled if a line was left out. -/
def run (automaton : Automaton) (workers : Workers) (cancelAfter? : Option Nat)
    (batch : Batch) : Report :=
  let verdicts := verdicts automaton workers cancelAfter? batch.lines
  { filename := batch.filename
    verdicts
    cancelled := !verdicts.all Option.isSome
    complete_or_cancelled := by simp }

end Acceptor.Batch
