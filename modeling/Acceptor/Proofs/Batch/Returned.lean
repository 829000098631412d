import Acceptor.Proofs.Batch.Run
import Mathlib.Data.List.Forall2
import Mathlib.Logic.Relation

/-!
The reports that a batch may come back with.

A pool may be stopped between any two of its steps, so which lines are left out depends on how the
workers take turns.  A line that is not left out has the verdict that it would have had alone.
-/

namespace Acceptor.Batch

/-- A list of verdicts that running the lines may come to. -/
inductive ComesTo (automaton : Automaton) (workers : Workers) (cancelAfter? : Option Nat)
    (lines : List String) : List (Option Verdict) → Prop where
  | inOrder : workers.count = 1 ∨ lines.length ≤ 1 →
      ComesTo automaton workers cancelAfter? lines (runInOrder automaton cancelAfter? 0 lines)
  | inPool {pool : Pool} {verdicts : List (Option Verdict)} :
      ¬ (workers.count = 1 ∨ lines.length ≤ 1) →
      Relation.ReflTransGen (Pool.Step automaton workers cancelAfter?) (.ofLines lines) pool →
      pool.tasks.map Task.stage = verdicts.map Stage.done →
      ComesTo automaton workers cancelAfter? lines verdicts

/-- A report that running the batch may come back with. -/
structure Returns (automaton : Automaton) (workers : Workers) (cancelAfter? : Option Nat)
    (batch : Batch) (report : Report) : Prop where
  filename_eq : report.filename = batch.filename
  comesTo : ComesTo automaton workers cancelAfter? batch.lines report.verdicts
  cancelled_eq : report.cancelled = !report.verdicts.all Option.isSome

variable {automaton : Automaton} {workers : Workers} {cancelAfter? : Option Nat} {batch : Batch}
  {lines : List String} {verdicts : List (Option Verdict)} {report : Report}

/-! ## Verdicts of lines -/

/-- The line was left out, or it has the verdict of the automaton. -/
inductive IsOutcome (automaton : Automaton) (line : String) : Option Verdict → Prop where
  | left : IsOutcome automaton line none
  | run : IsOutcome automaton line (some (automaton.simulate line))

theorem forall₂_isOutcome_runInOrder (question : Nat) (lines : List String) :
    List.Forall₂ (IsOutcome automaton) lines
      (runInOrder automaton cancelAfter? question lines) := by
  induction lines generalizing question with
  | nil => exact .nil
  | cons line rest inductionHypothesis =>
      rw [runInOrder]
      split
      · apply List.Forall₂.cons .left
        rw [List.forall₂_map_right_iff, List.forall₂_same]
        intro other _
        exact .left
      · exact .cons .run (inductionHypothesis (question + 1))

theorem exists_line_of_mem {verdict : Verdict}
    (outcomes : List.Forall₂ (IsOutcome automaton) lines verdicts)
    (isVerdict : some verdict ∈ verdicts) : ∃ line ∈ lines, verdict = automaton.simulate line := by
  induction outcomes with
  | nil => contradiction
  | @cons line _ _ _ first _ inductionHypothesis =>
      rcases List.mem_cons.mp isVerdict with same | later
      · cases same
        cases first
        exact ⟨line, List.mem_cons_self, rfl⟩
      · obtain ⟨other, isLine, same⟩ := inductionHypothesis later
        exact ⟨other, List.mem_cons_of_mem line isLine, same⟩

/-- If the task is done, it is done with what its line comes to. -/
def Task.IsSound (automaton : Automaton) (task : Task) : Prop :=
  ∀ verdict?, task.stage = .done verdict? → IsOutcome automaton task.line verdict?

/-! ## Pools -/

namespace Pool

variable {pool next : Pool}

/-- Tasks are not mixed up, and those that are done are done with what their lines come to. -/
structure IsSound (automaton : Automaton) (lines : List String) (pool : Pool) : Prop where
  lines_eq : pool.tasks.map Task.line = lines
  task_sound : ∀ task ∈ pool.tasks, task.IsSound automaton

theorem isSound_ofLines (automaton : Automaton) (lines : List String) :
    IsSound automaton lines (ofLines lines) where
  lines_eq := (fits_ofLines automaton none lines).lines_eq
  task_sound := by
    intro task membership
    obtain ⟨line, _, rfl⟩ := List.mem_map.mp membership
    exact nofun

theorem IsSound.replace {before after : List Task} {line : String} {old new : Stage}
    {questions later : Nat}
    (sound : IsSound automaton lines ⟨before ++ ⟨line, old⟩ :: after, questions⟩)
    (taskSound : Task.IsSound automaton ⟨line, new⟩) :
    IsSound automaton lines ⟨before ++ ⟨line, new⟩ :: after, later⟩ where
  lines_eq := map_line_replace.trans sound.lines_eq
  task_sound := forall_replace sound.task_sound taskSound

theorem Step.isSound (step : Step automaton workers cancelAfter? pool next)
    (sound : IsSound automaton lines pool) : IsSound automaton lines next := by
  cases step with
  | take _ _ => exact sound.replace nofun
  | leave _ =>
      apply sound.replace
      rintro _ ⟨⟩
      exact .left
  | begin _ => exact sound.replace nofun
  | finish =>
      apply sound.replace
      rintro _ ⟨⟩
      exact .run

theorem isSound_of_steps
    (steps : Relation.ReflTransGen (Step automaton workers cancelAfter?) (ofLines lines) pool) :
    IsSound automaton lines pool := by
  induction steps with
  | refl => exact isSound_ofLines automaton lines
  | tail _ step inductionHypothesis => exact step.isSound inductionHypothesis

theorem IsSound.forall₂_isOutcome (sound : IsSound automaton lines pool)
    (allDone : pool.tasks.map Task.stage = verdicts.map Stage.done) :
    List.Forall₂ (IsOutcome automaton) lines verdicts := by
  have stages : List.Forall₂ (fun task verdict? => Task.stage task = .done verdict?)
      pool.tasks verdicts := by
    rw [← List.forall₂_eq_eq_eq, List.forall₂_map_left_iff, List.forall₂_map_right_iff] at allDone
    exact allDone
  rw [← sound.lines_eq, List.forall₂_map_left_iff]
  apply ((List.forall₂_and_left _ _).mpr ⟨sound.task_sound, stages⟩).imp
  intro task verdict? ⟨taskSound, isDone⟩
  exact taskSound verdict? isDone

/-! ### Task after task -/

variable {before after : List Task} {line : String} {questions : Nat}

/-- While no other task is busy, the next one can be brought to its end. -/
theorem steps_of_free (started : ∀ task ∈ before, task.stage ≠ .waiting)
    (free : (before ++ after).countP Task.isBusy = 0) :
    Relation.ReflTransGen (Step automaton workers cancelAfter?)
      ⟨before ++ ⟨line, .waiting⟩ :: after, questions⟩
      ⟨before ++ ⟨line, .done (runTask automaton cancelAfter? line questions)⟩ :: after,
        questions + 1⟩ := by
  apply Relation.ReflTransGen.head (.take started (free ▸ workers.count_pos))
  unfold runTask
  cases told : isCancelled cancelAfter? questions with
  | true => exact .single (.leave told)
  | false => exact .head (.begin told) (.single .finish)

def finished (automaton : Automaton) (cancelAfter? : Option Nat) (asked : String × Nat) : Task where
  line := asked.1
  stage := .done (runTask automaton cancelAfter? asked.1 asked.2)

theorem steps_finished (automaton : Automaton) (workers : Workers) (cancelAfter? : Option Nat)
    (before : List Task) (allDone : ∀ task ∈ before, ∃ verdict?, task.stage = .done verdict?)
    (questions : Nat) (lines : List String) :
    ∃ later, Relation.ReflTransGen (Step automaton workers cancelAfter?)
      ⟨before ++ (ofLines lines).tasks, questions⟩
      ⟨before ++ (lines.zipIdx questions).map (finished automaton cancelAfter?), later⟩ := by
  induction lines generalizing before questions with
  | nil => exact ⟨questions, .refl⟩
  | cons line rest inductionHypothesis =>
      -- Nothing is under way, so this line can be brought to its end before the others begin.
      let task := finished automaton cancelAfter? (line, questions)
      have started : ∀ task ∈ before, task.stage ≠ .waiting := by
        intro task membership
        obtain ⟨verdict?, isDone⟩ := allDone task membership
        rw [isDone]
        exact Stage.noConfusion
      have free : (before ++ (ofLines rest).tasks).countP Task.isBusy = 0 := by
        rw [List.countP_eq_zero, List.forall_mem_append]
        constructor
        · intro task membership
          obtain ⟨verdict?, isDone⟩ := allDone task membership
          simp [Task.isBusy, isDone]
        · intro task membership
          obtain ⟨line, _, rfl⟩ := List.mem_map.mp membership
          exact Bool.false_ne_true
      have allDoneNow : ∀ other ∈ before ++ [task], ∃ verdict?, other.stage = .done verdict? := by
        rw [List.forall_mem_append, List.forall_mem_singleton]
        exact ⟨allDone, _, rfl⟩
      obtain ⟨later, others⟩ := inductionHypothesis (before ++ [task]) allDoneNow (questions + 1)
      rw [List.append_assoc, List.append_assoc] at others
      exact ⟨later, .trans (steps_of_free started free) others⟩

end Pool

theorem ComesTo.forall₂_isOutcome
    (comesTo : ComesTo automaton workers cancelAfter? lines verdicts) :
    List.Forall₂ (IsOutcome automaton) lines verdicts := by
  cases comesTo with
  | inOrder _ => exact forall₂_isOutcome_runInOrder 0 lines
  | inPool _ steps allDone => exact (Pool.isSound_of_steps steps).forall₂_isOutcome allDone

theorem comesTo_verdicts (automaton : Automaton) (workers : Workers) (cancelAfter? : Option Nat)
    (lines : List String) :
    ComesTo automaton workers cancelAfter? lines
      (Batch.verdicts automaton workers cancelAfter? lines) := by
  unfold Batch.verdicts
  split
  next inOrder => exact .inOrder inOrder
  next inPool =>
    obtain ⟨later, steps⟩ := Pool.steps_finished automaton workers cancelAfter? [] nofun 0 lines
    apply ComesTo.inPool inPool steps
    rw [List.nil_append, List.map_map, runTasks, List.map_map]
    rfl

/-- The report of the model is one that a batch may come back with. -/
theorem returns_run (automaton : Automaton) (workers : Workers) (cancelAfter? : Option Nat)
    (batch : Batch) :
    Returns automaton workers cancelAfter? batch (run automaton workers cancelAfter? batch) where
  filename_eq := rfl
  comesTo := comesTo_verdicts automaton workers cancelAfter? batch.lines
  cancelled_eq := rfl

namespace Returns

variable (returns : Returns automaton workers cancelAfter? batch report)
include returns

theorem length_eq : report.verdicts.length = batch.lines.length :=
  returns.comesTo.forall₂_isOutcome.length_eq.symm

theorem exists_line_of_given {verdict : Verdict} (isGiven : verdict ∈ report.given) :
    ∃ line ∈ batch.lines, verdict = automaton.simulate line := by
  obtain ⟨_, isVerdict, rfl⟩ := List.mem_filterMap.mp isGiven
  exact exists_line_of_mem returns.comesTo.forall₂_isOutcome isVerdict

end Returns

end Acceptor.Batch
