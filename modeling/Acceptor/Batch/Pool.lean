import Acceptor.Batch

/-!
Pools of workers, which run the lines of a batch side by side.

Each line is a task.  Workers take tasks in the order of the lines, each worker one at a time.  A
task that was taken asks whether the batch is cancelled and, unless it is, runs its line.  Which
worker takes its next step is left open.
-/

namespace Acceptor.Batch

inductive Stage where
  | waiting
  /-- A worker has the task, and it has asked nothing yet. -/
  | taken
  | running
  | done (verdict? : Option Verdict)
  deriving DecidableEq, Repr

structure Task where
  line : String
  stage : Stage
  deriving DecidableEq, Repr

def Task.isBusy (task : Task) : Bool :=
  task.stage = .taken || task.stage = .running

/-- The tasks in the order of the lines, and how many questions they have asked. -/
structure Pool where
  tasks : List Task
  questions : Nat := 0
  deriving DecidableEq, Repr

namespace Pool

def ofLines (lines : List String) : Pool where
  tasks := lines.map fun line => { line, stage := .waiting }

inductive Step (automaton : Automaton) (workers : Workers) (cancelAfter? : Option Nat) :
    Pool → Pool → Prop where
  | take {before after line questions} :
      (∀ task ∈ before, task.stage ≠ .waiting) →
      (before ++ after).countP Task.isBusy < workers.count →
      Step automaton workers cancelAfter?
        ⟨before ++ ⟨line, .waiting⟩ :: after, questions⟩
        ⟨before ++ ⟨line, .taken⟩ :: after, questions⟩
  | leave {before after line questions} :
      isCancelled cancelAfter? questions = true →
      Step automaton workers cancelAfter?
        ⟨before ++ ⟨line, .taken⟩ :: after, questions⟩
        ⟨before ++ ⟨line, .done none⟩ :: after, questions + 1⟩
  | begin {before after line questions} :
      isCancelled cancelAfter? questions = false →
      Step automaton workers cancelAfter?
        ⟨before ++ ⟨line, .taken⟩ :: after, questions⟩
        ⟨before ++ ⟨line, .running⟩ :: after, questions + 1⟩
  | finish {before after line questions} :
      Step automaton workers cancelAfter?
        ⟨before ++ ⟨line, .running⟩ :: after, questions⟩
        ⟨before ++ ⟨line, .done (some (automaton.simulate line))⟩ :: after, questions⟩

/-- However the workers go on, they never get stuck, and in the end all tasks are done, with
given verdicts in the order of the lines. -/
inductive EndsWith (automaton : Automaton) (workers : Workers) (cancelAfter? : Option Nat)
    (verdicts : List (Option Verdict)) : Pool → Prop where
  | ended {pool} : pool.tasks.map Task.stage = verdicts.map Stage.done →
      EndsWith automaton workers cancelAfter? verdicts pool
  | going {pool} : (∃ next, Step automaton workers cancelAfter? pool next) →
      (∀ next, Step automaton workers cancelAfter? pool next →
        EndsWith automaton workers cancelAfter? verdicts next) →
      EndsWith automaton workers cancelAfter? verdicts pool

end Pool

end Acceptor.Batch
