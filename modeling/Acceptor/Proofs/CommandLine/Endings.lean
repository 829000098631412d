import Acceptor.Proofs.CommandLine.Failures

/-!
How commands end.

If no failure is in the way of a command, it ends by itself.  If there is one, it depends on the
failure alone whether it is told in a line and ends the command with an exit code, or escapes.
-/

namespace Acceptor.CommandLine

/-! ## What is told -/

def TellsError (text : String) : Prop :=
  ∃ line ∈ Text.lines text.toList, "error: ".toList <+: line

/-- A command ends well, or with an exit code and a line that tells an error. -/
inductive EndsInOrder (outcome : Outcome) : Prop where
  | well : outcome.ending = .exit 0 → EndsInOrder outcome
  | told : outcome.ending = .exit 1 ∨ outcome.ending = .exit 2 →
      TellsError outcome.transcript.stdout ∨ TellsError outcome.transcript.stderr →
      EndsInOrder outcome

theorem exists_prefix_of_lines_append {start : List Char} (unbroken : '\n' ∉ start)
    (rest : List Char) :
    ∃ first others, Text.lines (start ++ rest) = first :: others ∧ start <+: first := by
  induction start with
  | nil =>
      obtain ⟨first, others, pieces⟩ :=
        List.exists_cons_of_ne_nil (Text.splitWhere_ne_nil (· == '\n') rest)
      exact ⟨first, others, pieces, List.nil_prefix⟩
  | cons c start inductionHypothesis =>
      rw [List.mem_cons, not_or] at unbroken
      obtain ⟨notEnd, unbrokenLater⟩ := unbroken
      obtain ⟨first, others, pieces, isPrefix⟩ := inductionHypothesis unbrokenLater
      refine ⟨c :: first, others, ?_, List.cons_prefix_cons.mpr ⟨rfl, isPrefix⟩⟩
      rw [Text.lines] at pieces ⊢
      rw [List.cons_append, Text.splitWhere, if_neg (by simpa using Ne.symm notEnd), pieces]

theorem tellsError_textOf {message : String} {lines : List String}
    (told : errorLine message ∈ lines) : TellsError (textOf lines) := by
  have split (line : String) (rest : List String) : Text.lines (textOf (line :: rest)).toList =
      Text.lines line.toList ++ Text.lines (textOf rest).toList := by
    rw [textOf, List.map_cons, String.join_cons, String.toList_append, String.toList_append,
      List.append_assoc]
    exact Text.splitWhere_append_cons rfl _ _
  induction lines with
  | nil => contradiction
  | cons line rest inductionHypothesis =>
      unfold TellsError
      rw [split]
      rcases List.mem_cons.mp told with rfl | later
      · have unbroken : '\n' ∉ "error: ".toList := by decide
        obtain ⟨first, others, pieces, isPrefix⟩ :=
          exists_prefix_of_lines_append unbroken message.toList
        have whole : (errorLine message).toList = "error: ".toList ++ message.toList :=
          String.toList_append
        refine ⟨first, List.mem_append_left _ ?_, isPrefix⟩
        rw [whole, pieces]
        exact List.mem_cons_self
      · obtain ⟨line, isLine, isPrefix⟩ := inductionHypothesis later
        exact ⟨line, List.mem_append_right _ isLine, isPrefix⟩

variable {libraries : Libraries} {transcript : Transcript} {failure : Failure} {tree : Tree}

theorem Transcript.HasWholeLines.tellsError_complain (whole : transcript.HasWholeLines)
    (message : String) : TellsError (transcript.complain [errorLine message]).stderr := by
  obtain ⟨before, written⟩ := whole
  rw [stderr_complain, written, ← textOf_append]
  exact tellsError_textOf (List.mem_append_right before (List.mem_singleton_self _))

theorem endsInOrder_conclude_iff (whole : transcript.HasWholeLines) :
    EndsInOrder (conclude transcript failure) ↔ failure.isReported = true := by
  unfold conclude
  split
  next reported =>
    apply iff_of_true _ reported
    exact .told (.inr rfl) (.inr (whole.tellsError_complain failure.message))
  next escapes =>
    apply iff_of_false _ escapes
    intro ends
    cases ends with
    | well ended => cases ended
    | told ended _ => rcases ended with ended | ended <;> cases ended

/-! ## Writing -/

section

variable {options : Options} {session : Session} {input : String} {batch : Batch} {report : Report}
  {output : Export} {outputs : List Export}

theorem map_tree_bind (transcript : Transcript) (written : Except Failure Tree) :
    (do let tree ← written; return { transcript with tree }).map Transcript.tree = written := by
  cases written <;> rfl

theorem map_tree_writeExport (libraries : Libraries) (options : Options) (report : Report)
    (transcript : Transcript) (output : Export)
    (loaded : session.input? = some { batch, path? := some (Path.ofString input) }) :
    (writeExport libraries options session batch report transcript output).map Transcript.tree =
      output.write libraries input batch report transcript.tree := by
  cases output with
  | verdicts =>
      simp only [writeExport, Export.write, Session.save, Session.outputPath, loaded,
        Option.bind_some]
      cases (Path.ofString input).verdictPath.mapError Failure.emptyName with
      | error failure => rfl
      | ok path =>
          cases written : transcript.tree.writeVerdicts report path <;>
            simp only [bind, Except.bind, written] <;> rfl
  | report path => exact map_tree_bind _ _
  | frame path =>
      simp only [writeExport, Export.write]
      cases Frame.rows report (some batch) with
      | error fault => rfl
      | ok rows => exact map_tree_bind _ _
  | picture path => exact map_tree_bind _ _

theorem Transcript.HasWholeLines.writeExport {after : Transcript} (whole : transcript.HasWholeLines)
    (wrote : CommandLine.writeExport libraries options session batch report transcript output =
      .ok after) :
    after.HasWholeLines := by
  obtain ⟨tree, written⟩ := after_of_writeExport wrote
  have moved : Transcript.HasWholeLines { transcript with tree } := whole
  rcases written with rfl | ⟨_, path, rfl⟩
  · exact moved
  · exact (moved.log _ _).print _

/-- Writing files one after another comes to the same failure whether or not anything is printed on
the way. -/
theorem writeExports_cases
    (loaded : session.input? = some { batch, path? := some (Path.ofString input) })
    (whole : transcript.HasWholeLines) (outputs : List Export) :
    (∃ failure after, outputs.foldlM (Export.write libraries input batch report) transcript.tree =
        .error failure ∧ after.HasWholeLines ∧
      writeExports libraries options session batch report transcript outputs =
        conclude after failure) ∨
    ∃ after, outputs.foldlM (Export.write libraries input batch report) transcript.tree =
        .ok after ∧
      (writeExports libraries options session batch report transcript outputs).ending =
        .exit 0 := by
  induction outputs generalizing transcript with
  | nil => exact .inr ⟨transcript.tree, rfl, rfl⟩
  | cons output rest inductionHypothesis =>
      have sameTree := map_tree_writeExport libraries options report transcript output loaded
      rw [List.foldlM_cons, ← sameTree]
      unfold writeExports
      cases wrote :
          CommandLine.writeExport libraries options session batch report transcript output with
      | error failure => exact .inl ⟨failure, transcript, rfl, whole, rfl⟩
      | ok after => exact inductionHypothesis (whole.writeExport wrote)

end

/-! ## Whole commands -/

variable {options : Options} {settings : Settings} {definition : String} {input? : Option String}
  {file : DefinitionFile} {loaded : Loaded}

/-- The first failure in the way of a command is what it ends with. -/
theorem exists_conclude_of_meets {invocation : Invocation}
    (meets : Meets libraries tree invocation failure) :
    ∃ transcript : Transcript, transcript.HasWholeLines ∧
      perform libraries invocation tree = conclude transcript failure := by
  have start := Transcript.hasWholeLines_start tree
  cases meets with
  | settings failed =>
      refine ⟨{ tree }, start, ?_⟩
      unfold perform
      simp only [failed]
  | @definition command _ _ _ chosen failed =>
      refine ⟨{ tree }, start, ?_⟩
      cases command with
      | check definition =>
          rw [perform_check tree definition chosen]
          exact check_of_unread failed
      | run definition input? =>
          rw [perform_run tree definition input? chosen]
          exact run_of_unread failed
  | noInput chosen read accepted =>
      rw [perform_run_of_loaded none chosen read accepted]
      exact ⟨_, hasWholeLines_warned _ _ _ _ _ _, rfl⟩
  | @input _ input _ _ _ _ _ chosen read accepted failed =>
      rw [perform_run_of_loaded (some input) chosen read accepted]
      exact ⟨_, hasWholeLines_warned _ _ _ _ _ _, runInput_of_unread failed⟩
  | output prepares failed =>
      obtain ⟨session, transcript, given, rfl, whole, _, written⟩ :=
        exists_writeExports_of_prepares libraries prepares
      rw [written]
      rcases writeExports_cases given whole _ with
        ⟨_, after, failedToo, afterWhole, concluded⟩ | ⟨_, wrote, _⟩
      · rw [failed] at failedToo
        cases failedToo
        exact ⟨after, afterWhole, concluded⟩
      · rw [failed] at wrote
        cases wrote

/-- The command ends with the exit code of a refusal, and a line tells why. -/
def Refuses (outcome : Outcome) : Prop :=
  outcome.ending = .exit 1 ∧
    (TellsError outcome.transcript.stdout ∨ TellsError outcome.transcript.stderr)

theorem refuses_check {error : LoadError} (read : tree.readDefinition definition = .ok file)
    (refused : Definition.load settings.marker settings.policy file.content = .error error) :
    Refuses (check options settings tree definition) := by
  obtain ⟨issues, nonempty, judged⟩ := Definition.exists_check_of_load_eq_error refused
  obtain ⟨issue, others, rfl⟩ := List.exists_cons_of_ne_nil nonempty
  have printed : errorLine issue.render ∈
      (issue :: others).map fun issue => errorLine issue.render :=
    List.mem_map_of_mem List.mem_cons_self
  rw [check_of_refused read judged]
  exact ⟨rfl, .inl (tellsError_textOf printed)⟩

theorem refuses_perform {command : Command} {error : LoadError}
    (chosen : options.settings = .ok settings)
    (read : tree.readDefinition command.definition = .ok file)
    (refused : Definition.load settings.marker settings.policy file.content = .error error) :
    Refuses (perform libraries ⟨command, options⟩ tree) := by
  cases command with
  | check definition =>
      rw [perform_check tree definition chosen]
      exact refuses_check read refused
  | run definition input? =>
      change tree.readDefinition definition = .ok file at read
      rw [perform_run tree definition input? chosen, run_of_refused read refused]
      have whole := hasWholeLines_noted options settings tree definition file
      exact ⟨rfl, .inr (whole.tellsError_complain error.message)⟩

/-- A command that meets no failure ends in order. -/
theorem endsInOrder_or_meets (libraries : Libraries) (invocation : Invocation) (tree : Tree) :
    EndsInOrder (perform libraries invocation tree) ∨
      ∃ failure, Meets libraries tree invocation failure := by
  obtain ⟨command, options⟩ := invocation
  cases chosen : options.settings with
  | error failure => exact .inr ⟨failure, .settings chosen⟩
  | ok settings =>
  cases read : tree.readDefinition command.definition with
  | error failure => exact .inr ⟨failure, .definition chosen read⟩
  | ok file =>
  cases loading : Definition.load settings.marker settings.policy file.content with
  | error error =>
      obtain ⟨ended, told⟩ := refuses_perform chosen read loading
      exact .inl (.told (.inl ended) told)
  | ok loaded =>
  cases command with
  | check definition =>
      change tree.readDefinition definition = .ok file at read
      rw [perform_check tree definition chosen,
        check_of_accepted read (Definition.check_of_load_eq_ok loading)]
      exact .inl (.well rfl)
  | run definition input? =>
  cases input? with
  | none => exact .inr ⟨_, .noInput chosen read loading⟩
  | some input =>
  cases readInput : tree.readInput input with
  | error failure => exact .inr ⟨failure, .input chosen read loading readInput⟩
  | ok batch =>
  have prepares : Prepares options tree definition (some input) settings loaded batch :=
    ⟨chosen, ⟨file, read, loading⟩, input, rfl, readInput⟩
  obtain ⟨session, transcript, given, rfl, whole, _, performed⟩ :=
    exists_writeExports_of_prepares libraries prepares
  rcases writeExports_cases given whole _ with ⟨failure, _, failed, _⟩ | ⟨_, _, ended⟩
  · exact .inr ⟨failure, .output prepares failed⟩
  · rw [performed]
    exact .inl (.well ended)

/-- What a command makes of the first failure in its way: nothing but the failure decides whether
it is told or escapes. -/
structure HandlesFailure (failure : Failure) (outcome : Outcome) : Prop where
  told : ¬ failure.Escapes →
    outcome.ending = .exit 2 ∧ TellsError outcome.transcript.stderr
  escaped : failure.Escapes → outcome.ending = .failed failure

theorem handlesFailure_conclude (whole : transcript.HasWholeLines) (comesUp : failure.ComesUp) :
    HandlesFailure failure (conclude transcript failure) := by
  have reported := Failure.isReported_iff comesUp
  constructor
  · intro kept
    rw [conclude, if_pos (reported.mpr kept)]
    exact ⟨rfl, whole.tellsError_complain failure.message⟩
  · intro escapes
    rw [conclude, if_neg (fun isReported => reported.mp isReported escapes)]

/-- A command ends in order exactly if the first failure in its way, if there is one, does not
escape.  Then neither a failure nor a definition that is refused goes without an exit code that is
not zero and a line that tells an error. -/
theorem endsInOrder_execute_iff {arguments : List String} {invocation : Invocation}
    (read : Invocation.ofArguments arguments = .ok invocation) (tree : Tree)
    (libraries : Libraries) :
    (EndsInOrder (execute arguments tree libraries) ↔
        ∀ failure, Meets libraries tree invocation failure → ¬ failure.Escapes) ∧
      (∀ failure, Meets libraries tree invocation failure →
        HandlesFailure failure (execute arguments tree libraries)) ∧
      ∀ settings file error, invocation.options.settings = .ok settings →
        tree.readDefinition invocation.command.definition = .ok file →
        Definition.load settings.marker settings.policy file.content = .error error →
          Refuses (execute arguments tree libraries) := by
  rw [execute_of_ofArguments read]
  refine ⟨?_, ?_, ?_⟩
  · constructor
    · intro ends failure meets
      obtain ⟨transcript, whole, concluded⟩ := exists_conclude_of_meets meets
      rw [concluded, endsInOrder_conclude_iff whole] at ends
      exact (Failure.isReported_iff meets.comesUp).mp ends
    · intro kept
      rcases endsInOrder_or_meets libraries invocation tree with ends | ⟨failure, meets⟩
      · exact ends
      · obtain ⟨transcript, whole, concluded⟩ := exists_conclude_of_meets meets
        rw [concluded, endsInOrder_conclude_iff whole, Failure.isReported_iff meets.comesUp]
        exact kept failure meets
  · intro failure meets
    obtain ⟨transcript, whole, concluded⟩ := exists_conclude_of_meets meets
    rw [concluded]
    exact handlesFailure_conclude whole meets.comesUp
  · intro settings file error chosen readFile refused
    exact refuses_perform chosen readFile refused

def directoryTree : Tree :=
  ({} : Tree).installDirectory (Path.ofString "d")

/-- A directory in place of a definition escapes, and a definition that is missing does not. -/
theorem not_endsInOrder_directory :
    ¬ EndsInOrder (execute ["check", "d"] directoryTree) ∧
      (execute ["check", "d"] directoryTree).ending = .failed (.access (.isDirectory "d")) ∧
      (execute ["check", "e"] directoryTree).ending = .exit 2 := by
  have readDirectory : Invocation.ofArguments ["check", "d"] = .ok ⟨.check "d", {}⟩ := by rfl
  have readMissing : Invocation.ofArguments ["check", "e"] = .ok ⟨.check "e", {}⟩ := by rfl
  have meets : Meets .plain directoryTree ⟨.check "d", {}⟩ (.access (.isDirectory "d")) :=
    .definition (by rfl : Options.settings {} = .ok {}) (by rfl)
  have meetsMissing : Meets .plain directoryTree ⟨.check "e", {}⟩ (.fileNotFound "e") :=
    .definition (by rfl : Options.settings {} = .ok {}) (by rfl)
  obtain ⟨ends, handles, _⟩ := endsInOrder_execute_iff readDirectory directoryTree .plain
  obtain ⟨_, handlesMissing, _⟩ := endsInOrder_execute_iff readMissing directoryTree .plain
  refine ⟨?_, (handles _ meets).escaped (.isDirectory "d"), ?_⟩
  · intro inOrder
    exact ends.mp inOrder _ meets (.isDirectory "d")
  · exact ((handlesMissing _ meetsMissing).told (fun escapes => nomatch escapes)).1

end Acceptor.CommandLine
