import Acceptor.Notice
import Acceptor.Proofs.Batch.Pool

/-!
What comes of running a batch, in order or in a pool.

Either way the report has the verdicts of the lines that were run, in their order, and nothing for
the lines after them.
-/

namespace Acceptor.Batch

variable {automaton : Automaton} {workers : Workers} {cancelAfter? : Option Nat} {batch : Batch}
  {lines : List String}

/-! ## Verdicts -/

theorem isCancelled_eq_true_iff {question : Nat} :
    isCancelled cancelAfter? question = true ↔
      ∃ allowed, cancelAfter? = some allowed ∧ allowed ≤ question := by
  cases cancelAfter? <;> simp [isCancelled]

theorem not_isCancelled {question : Nat}
    (allowed : ∀ bound, cancelAfter? = some bound → question < bound) :
    ¬ isCancelled cancelAfter? question = true := by
  rw [isCancelled_eq_true_iff]
  rintro ⟨bound, given, reached⟩
  exact Nat.not_lt_of_le reached (allowed bound given)

theorem isCancelled_succ {question : Nat} (told : isCancelled cancelAfter? question = true) :
    isCancelled cancelAfter? (question + 1) = true := by
  rw [isCancelled_eq_true_iff] at told ⊢
  obtain ⟨allowed, given, reached⟩ := told
  exact ⟨allowed, given, Nat.le_succ_of_le reached⟩

/-- Once the batch is cancelled, no task runs its line. -/
theorem map_runTask_of_isCancelled {question : Nat}
    (told : isCancelled cancelAfter? question = true) (lines : List String) :
    (lines.zipIdx question).map (fun (line, question) =>
        runTask automaton cancelAfter? line question) =
      lines.map fun _ => none := by
  induction lines generalizing question with
  | nil => rfl
  | cons line rest inductionHypothesis =>
      have task : runTask automaton cancelAfter? line question = none := by
        rw [runTask, if_pos told]
      simp only [List.zipIdx_cons, List.map_cons, task,
        inductionHypothesis (isCancelled_succ told)]

/-- Stopping at the first yes comes to the same as asking before each line. -/
theorem runInOrder_eq (question : Nat) (lines : List String) :
    runInOrder automaton cancelAfter? question lines =
      (lines.zipIdx question).map fun (line, question) =>
        runTask automaton cancelAfter? line question := by
  induction lines generalizing question with
  | nil => rfl
  | cons line rest inductionHypothesis =>
      by_cases told : isCancelled cancelAfter? question = true
      · rw [runInOrder, if_pos told, map_runTask_of_isCancelled told]
        rfl
      · rw [runInOrder, if_neg told, inductionHypothesis, List.zipIdx_cons, List.map_cons]
        simp only [runTask, if_neg told]

theorem verdicts_eq_runTasks (automaton : Automaton) (workers : Workers)
    (cancelAfter? : Option Nat) (lines : List String) :
    verdicts automaton workers cancelAfter? lines = runTasks automaton cancelAfter? lines := by
  unfold verdicts
  split
  · exact runInOrder_eq 0 lines
  · rfl

def allowance (cancelAfter? : Option Nat) (lines : List String) : Nat :=
  cancelAfter?.getD lines.length

theorem runTask_eq {line : String} {index : Nat} (inLines : index < lines.length) :
    runTask automaton cancelAfter? line index =
      if index < allowance cancelAfter? lines then some (automaton.simulate line) else none := by
  cases cancelAfter? with
  | none => simp [runTask, isCancelled, allowance, inLines]
  | some allowed =>
      by_cases reached : allowed ≤ index
      · simp [runTask, isCancelled, allowance, reached, Nat.not_lt_of_le reached]
      · simp [runTask, isCancelled, allowance, reached, Nat.lt_of_not_le reached]

/-- The lines that may be run have their verdicts, and the others have none. -/
theorem verdicts_eq (automaton : Automaton) (workers : Workers) (cancelAfter? : Option Nat)
    (lines : List String) :
    verdicts automaton workers cancelAfter? lines =
      ((lines.take (allowance cancelAfter? lines)).map fun line =>
          some (automaton.simulate line)) ++
        List.replicate (lines.length - allowance cancelAfter? lines) none := by
  rw [verdicts_eq_runTasks]
  apply List.ext_getElem?
  intro index
  rw [runTasks, List.getElem?_map, List.getElem?_zipIdx, List.getElem?_append, List.getElem?_map,
    List.getElem?_take, List.getElem?_replicate, List.length_map, List.length_take]
  by_cases inLines : index < lines.length
  · rw [List.getElem?_eq_getElem inLines]
    simp only [Option.map_some, Nat.zero_add, runTask_eq inLines]
    by_cases run : index < allowance cancelAfter? lines
    · simp [run, Nat.lt_min.mpr ⟨run, inLines⟩]
    · rw [if_neg run, if_neg (by omega), if_pos (by omega)]
  · rw [List.getElem?_eq_none (Nat.le_of_not_lt inLines), if_neg (by omega), if_neg (by omega)]
    rfl

theorem length_verdicts (automaton : Automaton) (workers : Workers) (cancelAfter? : Option Nat)
    (lines : List String) :
    (verdicts automaton workers cancelAfter? lines).length = lines.length := by
  simp [verdicts_eq_runTasks, runTasks]

theorem getElem?_verdicts (automaton : Automaton) (workers : Workers) (cancelAfter? : Option Nat)
    (lines : List String) (index : Nat) :
    (verdicts automaton workers cancelAfter? lines)[index]? =
      lines[index]?.map fun line => runTask automaton cancelAfter? line index := by
  simp [verdicts_eq_runTasks, runTasks, Function.comp_def]

theorem all_isSome_verdicts_eq_false_iff :
    (verdicts automaton workers cancelAfter? lines).all Option.isSome = false ↔
      allowance cancelAfter? lines < lines.length := by
  rw [verdicts_eq, List.all_append, List.all_map, List.all_replicate]
  simp [Function.comp_def, Nat.sub_eq_zero_iff_le]

theorem length_given_run (automaton : Automaton) (workers : Workers) (cancelAfter? : Option Nat)
    (batch : Batch) :
    (run automaton workers cancelAfter? batch).given.length =
      min (allowance cancelAfter? batch.lines) batch.lines.length := by
  have verdicts := verdicts_eq automaton workers cancelAfter? batch.lines
  simp only [Report.given, run, verdicts, List.filterMap_append, List.filterMap_map]
  simp

/-! ## Reports -/

/-- The report has the verdicts of the lines that were allowed to run, in the places of the
lines, and a warning is logged exactly if others were left out. -/
structure Reports (automaton : Automaton) (cancelAfter? : Option Nat) (batch : Batch)
    (report : Report) : Prop where
  filename_eq : report.filename = batch.filename
  length_eq : report.verdicts.length = batch.lines.length
  verdict_of_run : ∀ index line, batch.lines[index]? = some line →
    (∀ allowed, cancelAfter? = some allowed → index < allowed) →
      report.verdicts[index]? = some (some (automaton.simulate line))
  verdict_of_left : ∀ allowed, cancelAfter? = some allowed →
    ∀ index, allowed ≤ index → index < batch.lines.length → report.verdicts[index]? = some none
  cancelled_iff : report.cancelled = true ↔
    ∃ allowed, cancelAfter? = some allowed ∧ allowed < batch.lines.length
  make_eq : Report.make report.filename report.verdicts report.cancelled = .ok report
  warned_iff : (Notice.ofReport report).level = .warning ↔ report.cancelled = true
  warning_eq : ∀ allowed, cancelAfter? = some allowed → report.cancelled = true →
    (Notice.ofReport report).text =
      "batch " ++ Text.quote batch.filename ++ " cancelled after " ++
        toString (min allowed batch.lines.length) ++ " of " ++
        toString batch.lines.length ++ " lines"

theorem cancelled_run_iff :
    (run automaton workers cancelAfter? batch).cancelled = true ↔
      ∃ allowed, cancelAfter? = some allowed ∧ allowed < batch.lines.length := by
  have left : (run automaton workers cancelAfter? batch).cancelled = true ↔
      allowance cancelAfter? batch.lines < batch.lines.length := by
    rw [run, Bool.not_eq_true']
    exact all_isSome_verdicts_eq_false_iff
  rw [left, allowance]
  cases cancelAfter? <;> simp

theorem ofReport_of_cancelled {report : Report} (cancelled : report.cancelled = true) :
    Notice.ofReport report =
      .batchCancelled report.filename report.given.length report.verdicts.length := by
  rw [Notice.ofReport, if_pos cancelled]

theorem text_batchCancelled (filename : String) (done lines : Nat) :
    (Notice.batchCancelled filename done lines).text =
      "batch " ++ Text.quote filename ++ " cancelled after " ++ toString done ++ " of " ++
        toString lines ++ " lines" := rfl

theorem reports_of_run (automaton : Automaton) (workers : Workers) (cancelAfter? : Option Nat)
    (batch : Batch) :
    Reports automaton cancelAfter? batch (run automaton workers cancelAfter? batch) where
  filename_eq := rfl
  length_eq := length_verdicts _ _ _ _
  verdict_of_run := by
    intro index line isLine allowed
    apply (getElem?_verdicts _ _ _ _ _).trans
    rw [isLine, Option.map_some, runTask, if_neg (not_isCancelled allowed)]
  verdict_of_left := by
    rintro allowed rfl index reached inLines
    have told : isCancelled (some allowed) index = true :=
      isCancelled_eq_true_iff.mpr ⟨allowed, rfl, reached⟩
    apply (getElem?_verdicts _ _ _ _ _).trans
    rw [List.getElem?_eq_getElem inLines, Option.map_some, runTask, if_pos told]
  cancelled_iff := cancelled_run_iff
  make_eq := by
    rw [Report.make, dif_pos (run automaton workers cancelAfter? batch).complete_or_cancelled]
  warned_iff := by
    unfold Notice.ofReport
    split
    next cancelled => exact iff_of_true rfl cancelled
    next finished => exact iff_of_false Notice.Level.noConfusion finished
  warning_eq := by
    rintro allowed rfl cancelled
    have length : (run automaton workers (some allowed) batch).verdicts.length =
      batch.lines.length := length_verdicts _ _ _ _
    rw [ofReport_of_cancelled cancelled, length_given_run, length, text_batchCancelled]
    rfl

/-! ## The two ways to run a batch -/

/-- The lines are run in order, or the pool gives the same answer to all its tasks. -/
def IsPredictable (workers : Workers) (cancelAfter? : Option Nat) (lines : List String) : Prop :=
  workers.count = 1 ∨ lines.length ≤ 1 ∨ IsSteady cancelAfter?

/-- Nothing but a line and its place among the lines that may run decides on its verdict. -/
structure IsIndependent (automaton : Automaton) (workers : Workers) (cancelAfter? : Option Nat)
    (batch : Batch) : Prop where
  run_eq :
    run automaton workers cancelAfter? batch = run automaton { count := 1 } cancelAfter? batch
  endsWith : ¬ (workers.count = 1 ∨ batch.lines.length ≤ 1) →
    Pool.EndsWith automaton workers cancelAfter? (run automaton workers cancelAfter? batch).verdicts
      (.ofLines batch.lines)
  verdict_set_eq : ∀ index other line, other ≠ index →
    (run automaton workers cancelAfter?
        { batch with lines := batch.lines.set index line }).verdicts[other]? =
      (run automaton workers cancelAfter? batch).verdicts[other]?
  verdicts_of_fewer : ∀ fewer, IsPredictable workers (some fewer) batch.lines →
    (∀ allowed, cancelAfter? = some allowed → fewer ≤ allowed) →
      (run automaton workers (some fewer) batch).verdicts =
        (run automaton workers cancelAfter? batch).verdicts.take fewer ++
          List.replicate (batch.lines.length - fewer) none

theorem run_eq_of_workers (other : Workers) :
    run automaton workers cancelAfter? batch = run automaton other cancelAfter? batch := by
  simp only [run, verdicts_eq_runTasks]

theorem take_verdicts {fewer : Nat}
    (isFewer : ∀ allowed, cancelAfter? = some allowed → fewer ≤ allowed) :
    (verdicts automaton workers cancelAfter? lines).take fewer =
      (lines.take fewer).map fun line => some (automaton.simulate line) := by
  apply List.ext_getElem?
  intro index
  rw [List.getElem?_map, List.getElem?_take, List.getElem?_take]
  by_cases early : index < fewer
  · have going : ¬ isCancelled cancelAfter? index = true := by
      apply not_isCancelled
      intro bound given
      exact Nat.lt_of_lt_of_le early (isFewer bound given)
    rw [if_pos early, if_pos early, getElem?_verdicts]
    simp only [runTask, if_neg going]
  · rw [if_neg early, if_neg early]
    rfl

theorem isIndependent (predictable : IsPredictable workers cancelAfter? batch.lines) :
    IsIndependent automaton workers cancelAfter? batch where
  run_eq := run_eq_of_workers _
  endsWith := by
    intro inPool
    rw [not_or] at inPool
    have steady : IsSteady cancelAfter? :=
      (predictable.resolve_left inPool.1).resolve_left inPool.2
    simp only [run, verdicts_eq_runTasks]
    exact (Pool.fits_ofLines automaton cancelAfter? batch.lines).endsWith steady
  verdict_set_eq := by
    intro index other line different
    simp only [run, getElem?_verdicts]
    rw [List.getElem?_set_ne different.symm]
  verdicts_of_fewer := by
    intro fewer _ isFewer
    simp only [run]
    rw [take_verdicts isFewer, verdicts_eq]
    rfl

/-- The report of a batch has a verdict for each line that was run, in its place, whether the
lines are run in order or by a pool, and the lines have nothing to do with each other. -/
theorem reports_run (automaton : Automaton)
    (predictable : IsPredictable workers cancelAfter? batch.lines) :
    Reports automaton cancelAfter? batch (run automaton workers cancelAfter? batch) ∧
      IsIndependent automaton workers cancelAfter? batch :=
  ⟨reports_of_run automaton workers cancelAfter? batch, isIndependent predictable⟩

def unary : Automaton where
  states := ["s"]
  alphabet := ['a']
  transitions := .ofList [(("s", 'a'), "s")]
  start := "s"
  accepting := ["s"]
  states_nodup := by decide
  alphabet_nodup := by decide
  alphabet_ne_nil := by decide
  start_mem := by decide
  accepting_subset := by decide
  source_mem := by decide
  symbol_mem := by decide
  target_mem := by decide

/-- A batch with a line that the automaton cannot read to its end. -/
def mixedBatch : Batch where
  filename := "mixed.in"
  lines := ["aa", "ab", "a"]

/-- One worker that is stopped after two lines, and four workers that nobody stops. -/
theorem reports_run_mixedBatch :
    (IsPredictable { count := 1 } (some 2) mixedBatch.lines ∧
        Reports unary (some 2) mixedBatch (run unary { count := 1 } (some 2) mixedBatch) ∧
        IsIndependent unary { count := 1 } (some 2) mixedBatch) ∧
      IsPredictable { count := 4 } none mixedBatch.lines ∧
        Reports unary none mixedBatch (run unary { count := 4 } none mixedBatch) ∧
        IsIndependent unary { count := 4 } none mixedBatch := by
  have inOrder : IsPredictable { count := 1 } (some 2) mixedBatch.lines := .inl rfl
  have steady : IsPredictable { count := 4 } none mixedBatch.lines := .inr (.inr (.inl rfl))
  exact ⟨⟨inOrder, reports_run unary inOrder⟩, steady, reports_run unary steady⟩

end Acceptor.Batch
