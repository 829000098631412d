import Mathlib.Algebra.GroupWithZero.Nat
import Mathlib.Data.List.Basic
import Acceptor.Batch.Pool

/-!
Pools end with the verdicts of their lines, whichever worker takes its steps first.

This holds where no answer about the batch being cancelled depends on who asks: a task that has
come to its end then has the verdict that it would have had alone.  A step brings one task
forward, so there are only so many steps, and some worker can take one until all tasks are done.
-/

namespace Acceptor.Batch

/-- The same is answered to all questions. -/
def IsSteady (cancelAfter? : Option Nat) : Prop :=
  cancelAfter? = none ∨ cancelAfter? = some 0

variable {automaton : Automaton} {workers : Workers} {cancelAfter? : Option Nat}
  {lines : List String}

theorem IsSteady.isCancelled_eq (steady : IsSteady cancelAfter?) (question other : Nat) :
    isCancelled cancelAfter? question = isCancelled cancelAfter? other := by
  rcases steady with rfl | rfl
  · rfl
  · simp [isCancelled]

theorem IsSteady.runTask_eq (steady : IsSteady cancelAfter?) (line : String)
    (question other : Nat) :
    runTask automaton cancelAfter? line question = runTask automaton cancelAfter? line other := by
  rw [runTask, runTask, steady.isCancelled_eq question other]

theorem IsSteady.runTasks_eq (steady : IsSteady cancelAfter?) (lines : List String) :
    runTasks automaton cancelAfter? lines =
      lines.map fun line => runTask automaton cancelAfter? line 0 := by
  apply List.ext_getElem?
  intro index
  simp only [runTasks, List.getElem?_map, List.getElem?_zipIdx, Option.map_map]
  cases lines[index]? with
  | none => rfl
  | some line => exact congrArg some (steady.runTask_eq line _ _)

/-! ## Tasks -/

/-- The task has come no further than it may, and is done with the verdict of its line. -/
def Task.Fits (automaton : Automaton) (cancelAfter? : Option Nat) (task : Task) : Prop :=
  match task.stage with
  | .waiting | .taken => True
  | .running => isCancelled cancelAfter? 0 = false
  | .done verdict? => verdict? = runTask automaton cancelAfter? task.line 0

/-- How many steps a task is away from being done, at most. -/
def Task.ahead (task : Task) : Nat :=
  match task.stage with
  | .waiting => 3
  | .taken => 2
  | .running => 1
  | .done _ => 0

namespace Pool

def ahead (pool : Pool) : Nat :=
  (pool.tasks.map Task.ahead).sum

structure Fits (automaton : Automaton) (cancelAfter? : Option Nat) (lines : List String)
    (pool : Pool) : Prop where
  lines_eq : pool.tasks.map Task.line = lines
  task_fits : ∀ task ∈ pool.tasks, task.Fits automaton cancelAfter?

theorem fits_ofLines (automaton : Automaton) (cancelAfter? : Option Nat) (lines : List String) :
    Fits automaton cancelAfter? lines (ofLines lines) where
  lines_eq := by simp [ofLines, Function.comp_def]
  task_fits := by
    intro task membership
    obtain ⟨line, _, rfl⟩ := List.mem_map.mp membership
    exact trivial

/-! ## Steps -/

variable {pool next : Pool}

theorem Step.ahead_lt (step : Step automaton workers cancelAfter? pool next) :
    next.ahead < pool.ahead := by
  cases step <;> simp [ahead, Task.ahead]

section
variable {before after : List Task} {line : String} {old new : Stage}

theorem map_line_replace :
    (before ++ ⟨line, new⟩ :: after).map Task.line =
      (before ++ ⟨line, old⟩ :: after).map Task.line := by
  simp

theorem forall_replace {IsGood : Task → Prop}
    (allGood : ∀ task ∈ before ++ ⟨line, old⟩ :: after, IsGood task) (good : IsGood ⟨line, new⟩) :
    ∀ task ∈ before ++ ⟨line, new⟩ :: after, IsGood task := by
  simp only [List.forall_mem_append, List.forall_mem_cons] at allGood ⊢
  exact ⟨allGood.1, good, allGood.2.2⟩

/-- A fitting pool stays so when one of its tasks is brought forward to a fitting stage. -/
theorem Fits.replace {questions later : Nat}
    (fits : Fits automaton cancelAfter? lines ⟨before ++ ⟨line, old⟩ :: after, questions⟩)
    (taskFits : Task.Fits automaton cancelAfter? ⟨line, new⟩) :
    Fits automaton cancelAfter? lines ⟨before ++ ⟨line, new⟩ :: after, later⟩ where
  lines_eq := map_line_replace.trans fits.lines_eq
  task_fits := forall_replace fits.task_fits taskFits

end

theorem Step.fits (steady : IsSteady cancelAfter?)
    (step : Step automaton workers cancelAfter? pool next)
    (fits : Fits automaton cancelAfter? lines pool) :
    Fits automaton cancelAfter? lines next := by
  cases step with
  | take _ _ => exact fits.replace trivial
  | leave told =>
      rw [steady.isCancelled_eq _ 0] at told
      apply fits.replace
      simp only [Task.Fits, runTask, told, if_true]
  | begin told =>
      rw [steady.isCancelled_eq _ 0] at told
      exact fits.replace told
  | @finish before after line questions =>
      have running : isCancelled cancelAfter? 0 = false :=
        fits.task_fits ⟨line, .running⟩ (by simp)
      apply fits.replace
      simp only [Task.Fits, runTask, running, Bool.false_eq_true, if_false]

theorem exists_step_of_isBusy {task : Task} (membership : task ∈ pool.tasks)
    (busy : task.isBusy = true) : ∃ next, Step automaton workers cancelAfter? pool next := by
  obtain ⟨tasks, questions⟩ := pool
  obtain ⟨before, after, rfl⟩ := List.append_of_mem membership
  obtain ⟨line, stage⟩ := task
  cases stage with
  | waiting => contradiction
  | taken =>
      cases told : isCancelled cancelAfter? questions with
      | true => exact ⟨_, .leave told⟩
      | false => exact ⟨_, .begin told⟩
  | running => exact ⟨_, .finish⟩
  | done verdict? => contradiction

/-- While all workers are free, the first task that waits can be taken. -/
theorem exists_step_of_waiting (free : ∀ task ∈ pool.tasks, task.isBusy = false)
    {task : Task} (membership : task ∈ pool.tasks) (waiting : task.stage = .waiting) :
    ∃ next, Step automaton workers cancelAfter? pool next := by
  obtain ⟨tasks, questions⟩ := pool
  have exists_first : (tasks.find? fun task => task.stage = .waiting).isSome = true :=
    List.find?_isSome.mpr ⟨task, membership, decide_eq_true waiting⟩
  obtain ⟨⟨line, stage⟩, first⟩ := Option.isSome_iff_exists.mp exists_first
  obtain ⟨isWaiting, before, after, rfl, earlier⟩ := List.find?_eq_some_iff_append.mp first
  cases of_decide_eq_true isWaiting
  refine ⟨_, .take (fun task membership => by simpa using earlier task membership) ?_⟩
  have none_busy : (before ++ after).countP Task.isBusy = 0 := by
    rw [List.countP_eq_zero]
    simp only [List.forall_mem_append, List.forall_mem_cons] at free ⊢
    simp_all
  rw [none_busy]
  exact workers.count_pos

theorem exists_step_or_all_done (automaton : Automaton) (workers : Workers)
    (cancelAfter? : Option Nat) (pool : Pool) :
    (∃ next, Step automaton workers cancelAfter? pool next) ∨
      ∀ task ∈ pool.tasks, ∃ verdict?, task.stage = .done verdict? := by
  by_cases free : ∀ task ∈ pool.tasks, task.isBusy = false
  · by_cases waiting : ∃ task ∈ pool.tasks, task.stage = .waiting
    · obtain ⟨task, membership, isWaiting⟩ := waiting
      exact .inl (exists_step_of_waiting free membership isWaiting)
    · right
      intro task membership
      have notBusy := free task membership
      cases stage : task.stage with
      | waiting => exact absurd ⟨task, membership, stage⟩ waiting
      | taken => simp [Task.isBusy, stage] at notBusy
      | running => simp [Task.isBusy, stage] at notBusy
      | done verdict? => exact ⟨verdict?, rfl⟩
  · left
    push Not at free
    obtain ⟨task, membership, busy⟩ := free
    exact exists_step_of_isBusy membership (by simpa using busy)

/-! ## Whole runs -/

theorem Fits.stages_eq (fits : Fits automaton cancelAfter? lines pool)
    (allDone : ∀ task ∈ pool.tasks, ∃ verdict?, task.stage = .done verdict?) :
    pool.tasks.map Task.stage =
      (lines.map fun line => runTask automaton cancelAfter? line 0).map Stage.done := by
  rw [← fits.lines_eq, List.map_map, List.map_map]
  apply List.map_congr_left
  intro task membership
  obtain ⟨verdict?, stage⟩ := allDone task membership
  have taskFits := fits.task_fits task membership
  simp only [Task.Fits, stage] at taskFits
  rw [stage, taskFits]
  rfl

theorem Fits.endsWith (steady : IsSteady cancelAfter?)
    (fits : Fits automaton cancelAfter? lines pool) :
    EndsWith automaton workers cancelAfter? (runTasks automaton cancelAfter? lines) pool := by
  induction size : pool.ahead using Nat.strongRecOn generalizing pool with
  | ind size inductionHypothesis =>
      rcases exists_step_or_all_done automaton workers cancelAfter? pool with canStep | allDone
      · apply EndsWith.going canStep
        intro next step
        exact inductionHypothesis next.ahead (size ▸ step.ahead_lt) (step.fits steady fits) rfl
      · apply EndsWith.ended
        rw [steady.runTasks_eq]
        exact fits.stages_eq allDone

end Pool

end Acceptor.Batch
