import Acceptor.Proofs.Files.Tree
import Acceptor.Proofs.Report.Complete
import Acceptor.Proofs.Result
import Acceptor.Proofs.Session.Slots
import Mathlib.Data.List.Forall2

/-!
Verdict files that are saved beside the input.

A session does not remember which batch a report is about.  So the file beside the input that is
loaded always tells the verdicts on the batch that was run, and it tells those on the loaded lines
exactly if both batches agree line by line.  They do if nothing was loaded in between.
-/

namespace Acceptor

/-! ## What a verdict file says -/

/-- In the run that the report comes from, the line was accepted. -/
def Batch.Accepts (batch : Batch) (report : Report) (line : String) : Prop :=
  ∃ (index : Nat) (verdict : Verdict), batch.lines[index]? = some line ∧
    report.verdicts[index]? = some (some verdict) ∧ verdict.accepted = true

/-- The word says whether the line is accepted. -/
structure IsWordFor (accepts : String → Prop) (line word : String) : Prop where
  known : word = "VALID" ∨ word = "INVALID"
  valid_iff : word = "VALID" ↔ accepts line

/-- The text says of each of the lines, in order, whether it is accepted, and nothing else. -/
def Judges (text : String) (accepts : String → Prop) (lines : List String) : Prop :=
  ∃ words, Text.lines text.toList = words.map String.toList ++ [[]] ∧
    List.Forall₂ (IsWordFor accepts) lines words

variable {accepts : String → Prop} {lines others words : List String} {text line other word : String}

theorem IsWordFor.isWordFor_iff (isWord : IsWordFor accepts line word) :
    IsWordFor accepts other word ↔ (accepts other ↔ accepts line) := by
  constructor
  · intro otherIsWord
    exact otherIsWord.valid_iff.symm.trans isWord.valid_iff
  · intro alike
    exact ⟨isWord.known, isWord.valid_iff.trans alike.symm⟩

theorem forall₂_isWordFor_iff (areWords : List.Forall₂ (IsWordFor accepts) lines words) :
    List.Forall₂ (IsWordFor accepts) others words ↔
      List.Forall₂ (fun other line => accepts other ↔ accepts line) others lines := by
  induction areWords generalizing others with
  | nil => rw [List.forall₂_nil_right_iff, List.forall₂_nil_right_iff]
  | cons isWord _ inductionHypothesis =>
      cases others with
      | nil => exact iff_of_false nofun nofun
      | cons other others =>
          rw [List.forall₂_cons, List.forall₂_cons, isWord.isWordFor_iff, inductionHypothesis]

/-- A text that judges some lines judges other ones exactly if they are judged alike. -/
theorem Judges.judges_iff (judges : Judges text accepts lines) :
    Judges text accepts others ↔
      List.Forall₂ (fun other line => accepts other ↔ accepts line) others lines := by
  obtain ⟨words, shape, areWords⟩ := judges
  rw [← forall₂_isWordFor_iff areWords]
  constructor
  · rintro ⟨otherWords, otherShape, otherAreWords⟩
    have injective : String.toList.Injective := fun _ _ => String.toList_injective
    have sameWords : words = otherWords :=
      injective.list_map (List.append_cancel_right (shape.symm.trans otherShape))
    rwa [sameWords]
  · intro otherAreWords
    exact ⟨words, shape, otherAreWords⟩

namespace Batch

variable {automaton : Automaton} {workers : Workers} {batch : Batch} {line : String}

theorem accepts_run_iff : batch.Accepts (batch.run automaton workers none) line ↔
    line ∈ batch.lines ∧ (automaton.simulate line).accepted = true := by
  have verdicts := Batch.verdicts_run_none automaton workers batch
  unfold Accepts
  rw [verdicts]
  constructor
  · rintro ⟨index, verdict, isLine, isVerdict, accepted⟩
    rw [List.getElem?_map, isLine] at isVerdict
    cases isVerdict
    exact ⟨List.mem_of_getElem? isLine, accepted⟩
  · rintro ⟨membership, accepted⟩
    obtain ⟨index, isLine⟩ := List.mem_iff_getElem?.mp membership
    refine ⟨index, automaton.simulate line, isLine, ?_, accepted⟩
    rw [List.getElem?_map, isLine]
    rfl

/-- What a verdict file says is about the batch that was run. -/
theorem judges_output {cancelAfter? : Option Nat} {text : String}
    (output : (batch.run automaton workers cancelAfter?).output = .ok text) :
    Judges text (batch.Accepts (batch.run automaton workers cancelAfter?)) batch.lines := by
  have finished : (batch.run automaton workers cancelAfter?).cancelled = false := by
    apply Bool.eq_false_iff.mpr
    intro cancelled
    rw [Report.output, if_pos cancelled] at output
    contradiction
  rw [run_eq_run_none finished] at output ⊢
  rw [output_run_none] at output
  cases output
  refine ⟨batch.lines.map fun line => (automaton.simulate line).word, ?_, ?_⟩
  · rw [List.map_map]
    exact lines_words automaton batch.lines
  · refine List.forall₂_map_right_iff.mpr (List.forall₂_same.mpr ?_)
    intro line isLine
    have accepts : batch.Accepts (batch.run automaton workers none) line ↔ _ := accepts_run_iff
    unfold Verdict.word
    split
    next accepted => exact ⟨.inl rfl, iff_of_true rfl (accepts.mpr ⟨isLine, accepted⟩)⟩
    next refused =>
      exact ⟨.inr rfl, iff_of_false (by decide) fun accepted => refused (accepts.mp accepted).2⟩

end Batch

namespace Session

/-! ## Events -/

/-- The batch that the event runs, which is given or else is the input. -/
def Event.batch? (event : Event) : Option Batch :=
  match event.step with
  | .run batch? _ => batch?.or (event.session.input?.map LoadedInput.batch)
  | _ => none

def Event.report? (event : Event) : Option Report :=
  match event.result with
  | .ok (.report report) => some report
  | _ => none

variable {session : Session} {tree : Tree} {step : Step} {report : Report}

theorem not_isReport_loadAnswer (session : Session) (report : Report) :
    session.loadAnswer ≠ .report report := by
  unfold loadAnswer
  split <;> nofun

theorem Event.report?_eq_some_iff {event : Event} :
    event.report? = some report ↔ event.result = .ok (.report report) := by
  unfold Event.report?
  split
  next other same => simp [same]
  next different =>
    apply iff_of_false (by simp)
    intro same
    exact different report same

/-- Only a run gives back a report. -/
theorem exists_run_of_take_eq {world : World}
    (taken : session.take tree step = (.ok (.report report), world)) :
    ∃ batch? cancelAfter?, step = .run batch? cancelAfter? ∧
      session.run batch? cancelAfter? = .ok report := by
  unfold Session.take at taken
  cases step with
  | loadDefinition definition =>
      dsimp only at taken
      split at taken
      · cases taken
      · exact absurd (Except.ok.inj (Prod.mk.inj taken).1) (not_isReport_loadAnswer _ _)
  | loadDefinitionFile path =>
      dsimp only at taken
      split at taken
      · cases taken
      · split at taken
        · cases taken
        · exact absurd (Except.ok.inj (Prod.mk.inj taken).1) (not_isReport_loadAnswer _ _)
  | loadInput batch => cases taken
  | loadInputFile path =>
      dsimp only at taken
      split at taken <;> cases taken
  | run batch? cancelAfter? =>
      dsimp only at taken
      split at taken
      · cases taken
      next ran =>
        cases taken
        exact ⟨batch?, cancelAfter?, rfl, ran⟩
  | save report path? =>
      dsimp only at taken
      split at taken <;> cases taken
  | install path content => cases taken
  | installDirectory path => cases taken

theorem exists_batch_of_run_eq_ok {batch? : Option Batch} {cancelAfter? : Option Nat}
    (ran : session.run batch? cancelAfter? = .ok report) :
    ∃ batch automaton, batch?.or (session.input?.map LoadedInput.batch) = some batch ∧
      batch.run automaton session.settings.workers cancelAfter? = report := by
  unfold run at ran
  split at ran
  · cases ran
  · split at ran
    · cases ran
    next batch chosen =>
      cases ran
      exact ⟨batch, _, chosen, rfl⟩

/-- A text that is written from a report judges the batch that was run. -/
theorem Event.exists_batch_of_report? (reported : (take session tree step).report? = some report) :
    ∃ batch, (take session tree step).batch? = some batch ∧
      ∀ text, report.output = .ok text → Judges text (batch.Accepts report) batch.lines := by
  have given := Event.report?_eq_some_iff.mp reported
  obtain ⟨batch?, cancelAfter?, rfl, ran⟩ := exists_run_of_take_eq (Prod.ext given rfl)
  obtain ⟨batch, automaton, chosen, rfl⟩ := exists_batch_of_run_eq_ok ran
  exact ⟨batch, chosen, fun _ => Batch.judges_output⟩

/-- Saving beside the input looks at nothing but the report and the path of the input. -/
theorem exists_path_of_save {saved : Path × Tree} (saving : session.save tree report none = .ok saved) :
    ∃ loaded path text, session.input? = some { batch := loaded, path? := some path } ∧
      path.verdictPath = .ok saved.1 ∧ report.output = .ok text ∧
      saved.2.read saved.1.toString = .ok (.ofText text) := by
  obtain ⟨verdictPath, placed, saving⟩ := Except.bind_eq_ok_iff.mp saving
  obtain ⟨after, stored, saving⟩ := Except.bind_eq_ok_iff.mp saving
  cases saving
  obtain ⟨text, output, stored⟩ := Except.bind_eq_ok_iff.mp stored
  have read := Tree.read_of_write (Except.mapError_eq_ok_iff.mp stored)
  unfold outputPath at placed
  dsimp only at placed
  split at placed
  · cases placed
  next path loaded =>
    obtain ⟨⟨batch, path?⟩, isInput, rfl⟩ := Option.bind_eq_some_iff.mp loaded
    exact ⟨batch, path, text, isInput, Except.mapError_eq_ok_iff.mp placed,
      Except.mapError_eq_ok_iff.mp output, read⟩

theorem Event.exists_path_of_saved (saved : (take session tree (.save report none)).Succeeds) :
    ∃ loaded path verdictPath text,
      session.input? = some { batch := loaded, path? := some path } ∧
      path.verdictPath = .ok verdictPath ∧ report.output = .ok text ∧
      (take session tree (.save report none)).result = .ok (.saved verdictPath) ∧
      (take session tree (.save report none)).after.tree.read verdictPath.toString =
        .ok (.ofText text) := by
  cases saving : session.save tree report none with
  | error failure =>
      obtain ⟨answer, succeeded⟩ := saved
      rw [result_of_taken (take_save_of_error saving)] at succeeded
      contradiction
  | ok after =>
      have taken := take_save_of_ok saving
      obtain ⟨loaded, path, text, isInput, placed, output, read⟩ := exists_path_of_save saving
      refine ⟨loaded, path, after.1, text, isInput, placed, output, result_of_taken taken, ?_⟩
      have sameTree : (take session tree (.save report none)).after.tree = after.2 :=
        congrArg (World.tree ∘ Prod.snd) taken
      rw [sameTree]
      exact read

theorem Event.succeeds_iff {event : Event} : event.Succeeds ↔ event.result.isOk = true := by
  unfold Event.Succeeds
  cases event.result <;> simp [Except.isOk, Except.toBool]

/-! ## Whole runs -/

theorem exists_history_of_history_eq {steps : List Step} {earlier later : List Event}
    {event : Event} (split : history session tree steps = earlier ++ event :: later) :
    ∃ rest, history event.session event.tree rest = event :: later := by
  induction earlier generalizing session tree steps with
  | nil =>
      cases steps with
      | nil => simp [history] at split
      | cons step rest =>
          obtain ⟨rfl, _⟩ := List.cons.inj split
          exact ⟨step :: rest, split⟩
  | cons first earlier inductionHypothesis =>
      cases steps with
      | nil => simp [history] at split
      | cons step rest => exact inductionHypothesis (List.cons.inj split).2

/-- As long as no input is loaded, the input stays what it was. -/
theorem input?_eq_of_not_loadsInput {steps : List Step} {between later : List Event}
    {event last : Event}
    (split : history session tree steps = event :: between ++ last :: later)
    (notLoaded : ∀ other ∈ event :: between, ¬ other.LoadsInput) :
    last.session.input? = session.input? := by
  obtain ⟨stepsBefore, before, reached⟩ := exists_steps_of_history_eq { session, tree } split
  rcases Event.isSetBy_input?.slot_takeAll { session, tree } stepsBefore with
    ⟨same, _⟩ | ⟨loading, _, mostRecent, _⟩
  · rw [reached, same]
  · rw [← before] at mostRecent
    exact absurd mostRecent.relevant (notLoaded loading mostRecent.mem)

/-- The verdict file beside the input judges the batch that was run.  It judges the loaded lines
exactly if those are judged like the lines that were run, one by one; so it does if the input was
run and no other one has been loaded since. -/
theorem judges_of_saved (settings : Settings) (tree : Tree) (steps : List Step)
    {earlier between later : List Event} {running saving : Event} {report : Report}
    (split : history { settings } tree steps =
      earlier ++ running :: (between ++ saving :: later))
    (reported : running.report? = some report) (isSave : saving.step = .save report none)
    (saved : saving.Succeeds) :
    ∃ batch loaded path verdictPath text, running.batch? = some batch ∧
      saving.session.input? = some { batch := loaded, path? := some path } ∧
      path.verdictPath = .ok verdictPath ∧ saving.result = .ok (.saved verdictPath) ∧
      saving.after.tree.read verdictPath.toString = .ok (.ofText text) ∧
      Judges text (batch.Accepts report) batch.lines ∧
      (Judges text (batch.Accepts report) loaded.lines ↔
        List.Forall₂ (fun line ran => batch.Accepts report line ↔ batch.Accepts report ran)
          loaded.lines batch.lines) ∧
      ((∃ cancelAfter?, running.step = .run none cancelAfter?) →
        (∀ event ∈ between, ¬ event.LoadsInput) →
          Judges text (batch.Accepts report) loaded.lines) := by
  have ranBefore : running ∈ history { settings } tree steps := by simp [split]
  have savedAfter : saving ∈ history { settings } tree steps := by simp [split]
  obtain ⟨rest, sinceRun⟩ := exists_history_of_history_eq split
  obtain ⟨runner, filesOfRun, runStep, rfl, _⟩ := exists_take_of_mem_history ranBefore
  obtain ⟨saver, files, saveStep, rfl, _⟩ := exists_take_of_mem_history savedAfter
  obtain rfl : saveStep = .save report none := isSave
  obtain ⟨batch, isBatch, judgesOutput⟩ := Event.exists_batch_of_report? reported
  obtain ⟨loaded, path, verdictPath, text, isInput, placed, output, isResult, read⟩ :=
    Event.exists_path_of_saved saved
  have judges := judgesOutput text output
  refine ⟨batch, loaded, path, verdictPath, text, isBatch, isInput, placed, isResult, read, judges,
    judges.judges_iff, ?_⟩
  rintro ⟨cancelAfter?, isRun⟩ notLoaded
  obtain rfl : runStep = .run none cancelAfter? := isRun
  have notLoading : ¬ (Event.take runner filesOfRun (.run none cancelAfter?)).LoadsInput :=
    fun loads => loads.1
  -- Nothing has set the slot between the two events, so both find the same input in it.
  have sameInput := input?_eq_of_not_loadsInput sinceRun
    (List.forall_mem_cons.mpr ⟨notLoading, notLoaded⟩)
  change runner.input?.map LoadedInput.batch = some batch at isBatch
  change saver.input? = runner.input? at sameInput
  rw [← sameInput, isInput] at isBatch
  cases isBatch
  exact judges

def wordsDefinition : DefinitionFile where
  filename := "d.dfa"
  content := "states: s\nalphabet: a\nstart: s\naccept: s\ns, a -> s\n"

def swappedTree : Tree :=
  (({} : Tree).putFile ["a.in"] (.ofText "a\nb")).putFile ["b.in"] (.ofText "b\na")

/-- The report on the first of two files with the same lines in another order. -/
def firstReport : Report where
  filename := "a.in"
  verdicts := [
    some { accepted := true, trace := ["s", "s"] },
    some {
      accepted := false
      trace := ["s"]
      fault? := some { kind := .unknownSymbol, symbol := "b", position := 0 } }]
  complete_or_cancelled := by decide

def swappedSteps : List Step :=
  [.loadDefinition wordsDefinition, .loadInputFile "a.in", .run none none, .loadInputFile "b.in",
    .save firstReport none]

/-- The second file is loaded before the report on the first one is saved, so what is written
beside the second file is wrong about both of its lines. -/
theorem not_judges_swapped :
    ∃ (earlier between later : List Event) (running saving : Event) (batch loaded : Batch)
      (path verdictPath : Path) (text : String),
      history { settings := {} } swappedTree swappedSteps =
          earlier ++ running :: (between ++ saving :: later) ∧
        running.report? = some firstReport ∧ saving.step = .save firstReport none ∧
        saving.Succeeds ∧ running.batch? = some batch ∧
        saving.session.input? = some { batch := loaded, path? := some path } ∧
        path.verdictPath = .ok verdictPath ∧
        saving.after.tree.read verdictPath.toString = .ok (.ofText text) ∧
        Judges text (batch.Accepts firstReport) batch.lines ∧
        ¬ Judges text (batch.Accepts firstReport) loaded.lines := by
  have split : history { settings := {} } swappedTree swappedSteps =
      [_, _] ++ _ :: ([_] ++ _ :: []) := rfl
  obtain ⟨batch, loaded, path, verdictPath, text, isBatch, isInput, placed, _, read, judges,
    judgesLoaded, _⟩ := judges_of_saved {} swappedTree swappedSteps split
      (by decide +kernel : _ = some firstReport) rfl (Event.succeeds_iff.mpr (by decide +kernel))
  have ranLines : some batch = some ⟨"a.in", ["a", "b"]⟩ := isBatch.symm.trans (by decide +kernel)
  have loadedLines : some (LoadedInput.mk loaded (some path)) =
      some { batch := ⟨"b.in", ["b", "a"]⟩, path? := some (Path.ofString "b.in") } :=
    isInput.symm.trans (by decide +kernel)
  cases ranLines
  cases loadedLines
  refine ⟨_, _, _, _, _, _, _, _, verdictPath, text, split, by decide +kernel, rfl,
    Event.succeeds_iff.mpr (by decide +kernel), isBatch, isInput, placed, read, judges, ?_⟩
  -- The file would say of `b`, which was refused, what it says of `a`.
  intro wrong
  cases judgesLoaded.mp wrong with
  | cons alike _ =>
      obtain ⟨index, verdict, isLine, isVerdict, accepted⟩ := alike.mpr ⟨0, _, rfl, rfl, rfl⟩
      match index, isLine with
      | 1, _ =>
          cases isVerdict
          contradiction

end Session

end Acceptor
