import Acceptor.Proofs.CommandLine.Arguments
import Acceptor.Proofs.CommandLine.Run
import Acceptor.Proofs.Definition.Refusal
import Acceptor.Proofs.Report.Complete

/-!
The commands `check` and `run` judge a definition alike.

Both read the definition in the same way, and what one of them says of it can be told from what the
other says.  After that only `run` goes on, and it judges nothing more.
-/

namespace Acceptor.CommandLine

/-! ## Going on -/

/-- A command that goes on when the definition has been judged complains once if it ends with exit
code 2, and otherwise not at all. -/
inductive GoesOn (sofar : String) (outcome : Outcome) : Prop where
  | well (ended : outcome.ending = .exit 0) (silent : outcome.transcript.stderr = sofar)
  | told {message : String} (ended : outcome.ending = .exit 2)
      (complained : outcome.transcript.stderr = sofar ++ textOf ["error: " ++ message])
  | failed {failure : Failure} (ended : outcome.ending = .failed failure)
      (silent : outcome.transcript.stderr = sofar)

theorem GoesOn.ending_ne {sofar : String} {outcome : Outcome} (goesOn : GoesOn sofar outcome) :
    outcome.ending ≠ .exit 1 := by
  cases goesOn with
  | well ended _ | told ended _ | failed ended _ => simp [ended]

variable {libraries : Libraries} {options : Options} {session : Session} {input : String}
  {batch : Batch} {report : Report} {transcript : Transcript}

theorem goesOn_conclude (transcript : Transcript) (failure : Failure) :
    GoesOn transcript.stderr (conclude transcript failure) := by
  rcases conclude_eq transcript failure with reported | failed
  · rw [reported]
    exact .told rfl rfl
  · rw [failed]
    exact .failed rfl rfl

theorem goesOn_writeExports (quiet : options.verbose = false) {outputs : List Export} :
    GoesOn transcript.stderr
      (writeExports libraries options session batch report transcript outputs) := by
  induction outputs generalizing transcript with
  | nil => exact .well rfl rfl
  | cons output rest inductionHypothesis =>
      unfold writeExports
      split
      next failure _ => exact goesOn_conclude transcript failure
      next after wrote =>
        rw [← stderr_of_writeExport quiet wrote]
        exact inductionHypothesis

theorem isUrgent_ofReport (automaton : Automaton) (workers : Workers) (batch : Batch) :
    (Notice.ofReport (batch.run automaton workers none)).isUrgent = false := by
  rw [Notice.ofReport, Batch.cancelled_run_none]
  rfl

/-- Once there is an automaton, what comes is no judgement. -/
theorem goesOn_runInput (quiet : options.verbose = false) {active : Active}
    (given : session.active? = some active) (input? : Option String) :
    GoesOn transcript.stderr (runInput libraries options session transcript input?) := by
  cases input? with
  | none => exact goesOn_conclude transcript .noInputPath
  | some input =>
      cases read : transcript.tree.readInput input with
      | error failure =>
          rw [runInput_of_unread read]
          exact goesOn_conclude transcript failure
      | ok batch =>
          have calm := isUrgent_ofReport active.loaded.automaton session.settings.workers batch
          rw [runInput_of_read given read, quiet, log_of_forall, log_of_forall]
          · exact (goesOn_writeExports quiet : GoesOn (transcript.print _).stderr _)
          · exact List.forall_mem_singleton.mpr rfl
          · exact List.forall_mem_singleton.mpr calm

/-! ## Judging -/

/-- The definition can be read, and this is the judgement on its text. -/
structure Judged (tree : Tree) (options : Options) (definition : String) (file : DefinitionFile)
    (judgement : Except (List Issue) (List Issue)) : Prop where
  read : tree.readDefinition definition = .ok file
  exists_marker : ∃ marker, CommentMarker.ofString options.comment = .ok marker ∧
    Definition.check marker { strict := options.strict } file.content = judgement

/-- Both commands refuse a definition for the issues: one tells them line by line, and the other in
a single message. -/
structure RefuseAlike (tree : Tree) (issues : List Issue) (checked ran : Outcome) : Prop where
  tree_eq : ran.transcript.tree = tree
  stdout_eq : ran.transcript.stdout = ""
  nonempty : issues ≠ []
  listed : checked.transcript.stdout = textOf (issues.map fun issue => "error: " ++ issue.render)
  told : (∃ issue, issues = [issue] ∧ issue.kind = .malformedLine ∧
      ran.transcript.stderr = textOf ["error: " ++ issue.render]) ∨
    (∀ issue ∈ issues, issue.kind ≠ .malformedLine) ∧
      ran.transcript.stderr = textOf
        ["error: invalid automaton: " ++ "; ".intercalate (issues.map Issue.render)]

/-- Both commands give the warnings before `run` goes on. -/
structure WarnAlike (name : String) (warnings : List Issue) (checked ran : Outcome) : Prop where
  listed : checked.transcript.stdout =
    textOf ((warnings.map fun warning => "warning: " ++ warning.render) ++ [name ++ ": ok"])
  goesOn : GoesOn (textOf (warnings.map fun warning => "warning: " ++ warning.render)) ran

/-- What the two commands make of one definition. -/
structure JudgeAlike (tree : Tree) (options : Options) (definition : String)
    (checked ran : Outcome) : Prop where
  ending_cases : checked.ending = .exit 0 ∨ checked.ending = .exit 1 ∨ checked.ending = .exit 2 ∨
    ∃ failure, checked.ending = .failed failure
  exit_one_iff : checked.ending = .exit 1 ↔ ran.ending = .exit 1
  of_exit_one : checked.ending = .exit 1 → ∃ file issues,
    Judged tree options definition file (.error issues) ∧ RefuseAlike tree issues checked ran
  of_exit_zero : checked.ending = .exit 0 → ∃ file warnings,
    Judged tree options definition file (.ok warnings) ∧
      WarnAlike file.filename warnings checked ran
  of_exit_two : checked.ending = .exit 2 →
    ran.ending = .exit 2 ∧ ran.transcript.stderr = checked.transcript.stderr
  of_failed : ∀ failure, checked.ending = .failed failure → ran.ending = .failed failure

variable {tree : Tree} {definition : String} {file : DefinitionFile} {input? : Option String}
  {checkOptions runOptions : Options} {checkSettings runSettings : Settings}

theorem judgeAlike_conclude (failure : Failure) :
    JudgeAlike tree options definition (conclude { tree } failure) (conclude { tree } failure) where
  ending_cases := by
    rcases conclude_eq { tree } failure with reported | failed
    · simp [reported]
    · simp [failed]
  exit_one_iff := Iff.rfl
  of_exit_one ended := absurd (eq_of_ending_conclude ended) (by decide)
  of_exit_zero ended := absurd (eq_of_ending_conclude ended) (by decide)
  of_exit_two ended := ⟨ended, rfl⟩
  of_failed _ ended := ended

theorem log_judged_of_quiet (quiet : options.verbose = false) (settings : Settings) :
    ({ tree } : Transcript).log options.verbose (Session.readNotice definition file ::
      Notice.ofDefinition settings.marker settings.policy file.content) = { tree } := by
  rw [quiet, log_of_forall]
  exact List.forall_mem_cons.mpr ⟨rfl, fun _ => isUrgent_of_mem_ofDefinition⟩

theorem noted_of_quiet (quiet : options.verbose = false) (settings : Settings) :
    noted options settings tree definition file = { tree } := by
  rw [noted, quiet, log_of_forall]
  exact List.forall_mem_cons.mpr ⟨rfl, fun _ => isUrgent_of_mem_loadNotices⟩

theorem judgeAlike_of_accepted {loaded : Loaded}
    (quietCheck : checkOptions.verbose = false) (quietRun : runOptions.verbose = false)
    (judgement : Judged tree checkOptions definition file (.ok loaded.warnings))
    (judged : Definition.check checkSettings.marker checkSettings.policy file.content =
      .ok loaded.warnings)
    (accepted : Definition.load runSettings.marker runSettings.policy file.content =
      .ok loaded) :
    JudgeAlike tree checkOptions definition (check checkOptions checkSettings tree definition)
      (run libraries runOptions runSettings tree definition input?) := by
  let session : Session :=
    { settings := runSettings, active? := some { definition := file, loaded } }
  let warned := ({ tree } : Transcript).complain (loaded.warnings.map warningLine)
  have goesOn : GoesOn warned.stderr (runInput libraries runOptions session warned input?) :=
    goesOn_runInput quietRun rfl input?
  have warns : warned.stderr = textOf (loaded.warnings.map warningLine) := String.empty_append
  rw [warns] at goesOn
  rw [check_of_accepted judgement.read judged, log_judged_of_quiet quietCheck,
    run_of_loaded judgement.read accepted, noted_of_quiet quietRun]
  exact {
    ending_cases := by simp
    exit_one_iff := iff_of_false (by simp) goesOn.ending_ne
    of_exit_one := by simp
    of_exit_zero := by
      intro _
      refine ⟨file, loaded.warnings, judgement, ?_, goesOn⟩
      rw [stdout_print, String.empty_append]
      rfl
    of_exit_two := by simp
    of_failed := by simp }

theorem judgeAlike_of_refused {issues : List Issue} {error : LoadError} (nonempty : issues ≠ [])
    (quietCheck : checkOptions.verbose = false) (quietRun : runOptions.verbose = false)
    (judgement : Judged tree checkOptions definition file (.error issues))
    (judged : Definition.check checkSettings.marker checkSettings.policy file.content =
      .error issues)
    (refused : Definition.load runSettings.marker runSettings.policy file.content =
      .error error)
    (alike : (∃ issue, issues = [issue] ∧ issue.kind = .malformedLine ∧
        issue.render = error.message) ∨
      (∀ issue ∈ issues, issue.kind ≠ .malformedLine) ∧ error = .invalid issues) :
    JudgeAlike tree checkOptions definition (check checkOptions checkSettings tree definition)
      (run libraries runOptions runSettings tree definition input?) := by
  rw [check_of_refused judgement.read judged, log_judged_of_quiet quietCheck,
    run_of_refused judgement.read refused, noted_of_quiet quietRun]
  exact {
    ending_cases := by simp
    exit_one_iff := Iff.rfl
    of_exit_one := by
      intro _
      refine ⟨file, issues, judgement, rfl, rfl, nonempty, ?_, ?_⟩
      · rw [stdout_print, String.empty_append]
        rfl
      · rcases alike with ⟨issue, rfl, isMalformed, sameWords⟩ | ⟨unlike, rfl⟩
        · refine .inl ⟨issue, rfl, isMalformed, ?_⟩
          rw [stderr_complain, String.empty_append, sameWords]
          rfl
        · refine .inr ⟨unlike, ?_⟩
          rw [stderr_complain, String.empty_append, LoadError.message_invalid nonempty, errorLine,
            ← String.append_assoc]
          rfl
    of_exit_zero := by simp
    of_exit_two := by simp
    of_failed := by simp }

theorem judgeAlike_of_settings (quietCheck : checkOptions.verbose = false)
    (quietRun : runOptions.verbose = false)
    (chosen : CommentMarker.ofString checkOptions.comment = .ok checkSettings.marker)
    (policy : checkSettings.policy = { strict := checkOptions.strict })
    (sameMarker : runSettings.marker = checkSettings.marker)
    (samePolicy : runSettings.policy = checkSettings.policy) :
    JudgeAlike tree checkOptions definition (check checkOptions checkSettings tree definition)
      (run libraries runOptions runSettings tree definition input?) := by
  cases read : tree.readDefinition definition with
  | error failure =>
      rw [check_of_unread read, run_of_unread read]
      exact judgeAlike_conclude failure
  | ok file =>
      have judgement {judgement : Except (List Issue) (List Issue)}
          (judged : Definition.check checkSettings.marker checkSettings.policy file.content =
            judgement) : Judged tree checkOptions definition file judgement :=
        ⟨read, _, chosen, policy ▸ judged⟩
      have sameLoad : Definition.load runSettings.marker runSettings.policy file.content =
          Definition.load checkSettings.marker checkSettings.policy file.content := by
        rw [sameMarker, samePolicy]
      obtain ⟨outcome, holds⟩ := Definition.exists_outcome checkSettings.marker
        checkSettings.policy file.content
      cases outcome with
      | accepted =>
          obtain ⟨loaded, judged, accepted⟩ := holds
          exact judgeAlike_of_accepted quietCheck quietRun (judgement judged) judged
            (sameLoad.trans accepted)
      | malformed =>
          obtain ⟨issue, line, judged, refused, isMalformed, _, sameWords⟩ := holds
          exact judgeAlike_of_refused (List.cons_ne_nil _ _) quietCheck quietRun
            (judgement judged) judged (sameLoad.trans refused)
            (.inl ⟨issue, rfl, isMalformed, sameWords⟩)
      | refused =>
          obtain ⟨issues, nonempty, judged, refused⟩ := holds
          obtain ⟨draft, drafted⟩ := Definition.exists_validate_of_load_eq_invalid refused
          obtain ⟨kind, unlike, sameKind⟩ := Draft.exists_kind_of_validate_eq_error drafted
          refine judgeAlike_of_refused nonempty quietCheck quietRun (judgement judged) judged
            (sameLoad.trans refused) (.inr ⟨?_, rfl⟩)
          intro issue found
          rw [sameKind issue found]
          exact unlike

/-! ## Whole commands -/

theorem settings_of_marker_refused {fault : Settings.Fault}
    (refused : CommentMarker.ofString options.comment = .error fault) :
    options.settings = .error (.settings fault) := by
  unfold Options.settings
  split
  · rw [Settings.make, refused]
    rfl
  · rw [refused]
    rfl

theorem exists_settings {marker : CommentMarker} {count : Int}
    (workers : options.workers? = some count) (positive : 0 < count)
    (chosen : CommentMarker.ofString options.comment = .ok marker) :
    ∃ settings, options.settings = .ok settings ∧ settings.marker = marker ∧
      settings.policy = { strict := options.strict } := by
  have counted : Workers.ofInt count = .ok ⟨count.toNat, by omega⟩ := by
    rw [Workers.ofInt, dif_pos positive]
  refine ⟨⟨marker, { strict := options.strict }, ⟨count.toNat, by omega⟩⟩, ?_, rfl, rfl⟩
  simp only [Options.settings, workers, Settings.make, chosen, counted]
  rfl

/-- Whatever is in the files, `check` and `run` judge a definition alike if they are given the same
strictness and the same comment marker. -/
theorem judgeAlike_execute {checkArguments runArguments : List String} {count : Int}
    (readCheck : Invocation.ofArguments checkArguments = .ok ⟨.check definition, checkOptions⟩)
    (readRun : Invocation.ofArguments runArguments = .ok ⟨.run definition input?, runOptions⟩)
    (sameStrict : runOptions.strict = checkOptions.strict)
    (sameComment : runOptions.comment = checkOptions.comment)
    (quietCheck : checkOptions.verbose = false) (quietRun : runOptions.verbose = false)
    (workers : runOptions.workers? = some count) (positive : 0 < count) (tree : Tree)
    (libraries : Libraries) :
    JudgeAlike tree checkOptions definition (execute checkArguments tree libraries)
      (execute runArguments tree libraries) := by
  have checkWorkers := workers?_of_ofArguments readCheck
  rw [execute_of_ofArguments readCheck, execute_of_ofArguments readRun]
  cases chosen : CommentMarker.ofString checkOptions.comment with
  | error fault =>
      have refusedCheck := settings_of_marker_refused chosen
      have refusedRun := settings_of_marker_refused (sameComment ▸ chosen)
      unfold perform
      simp only [refusedCheck, refusedRun]
      exact judgeAlike_conclude _
  | ok marker =>
      obtain ⟨checkSettings, madeCheck, checkMarker, checkPolicy⟩ :=
        exists_settings checkWorkers (by decide) chosen
      obtain ⟨runSettings, madeRun, runMarker, runPolicy⟩ :=
        exists_settings workers positive (sameComment ▸ chosen)
      unfold perform
      simp only [madeCheck, madeRun]
      apply judgeAlike_of_settings quietCheck quietRun _ checkPolicy
      · rw [runMarker, checkMarker]
      · rw [runPolicy, checkPolicy, sameStrict]
      · rw [chosen, checkMarker]

/-- A definition with a rule for a state and a symbol that are not declared. -/
def strayTree : Tree :=
  ({} : Tree).putFile ["d.dfa"] (.ofText "states: s\nalphabet: 0\nstart: s\nt, 1 -> s\n")

/-- A definition with a state that nothing leads to and that cannot be left, and an input. -/
def lonelyTree : Tree :=
  (({} : Tree).putFile ["d.dfa"]
    (.ofText "states: s t\nalphabet: 0\nstart: s\ns, 0 -> s\n")).putFile ["w.in"] (.ofText "00")

theorem judgeAlike_strayTree :
    (JudgeAlike strayTree { strict := true } "d.dfa"
        (execute ["check", "--strict", "d.dfa"] strayTree)
        (execute ["run", "-w2", "d.dfa", "--strict", "w.in"] strayTree) ∧
      (execute ["check", "--strict", "d.dfa"] strayTree).ending = .exit 1 ∧
      (execute ["run", "-w2", "d.dfa", "--strict", "w.in"] strayTree).transcript.stderr =
        "error: invalid automaton: line 4: transition source 't' is not a declared state; " ++
          "line 4: transition symbol '1' is not in the alphabet\n") ∧
    JudgeAlike lonelyTree {} "d.dfa" (execute ["check", "d.dfa"] lonelyTree)
        (execute ["run", "d.dfa", "w.in"] lonelyTree) ∧
      (execute ["check", "d.dfa"] lonelyTree).transcript.stdout =
        "warning: no transition from state 't' on symbol '0'\n" ++
          "warning: state 't' is unreachable from the start state\nd.dfa: ok\n" ∧
      (execute ["run", "d.dfa", "w.in"] lonelyTree).transcript.stderr =
        "warning: no transition from state 't' on symbol '0'\n" ++
          "warning: state 't' is unreachable from the start state\n" := by
  have readCheck : Invocation.ofArguments ["check", "--strict", "d.dfa"] =
      .ok ⟨.check "d.dfa", { strict := true }⟩ := by rfl
  have readRun : Invocation.ofArguments ["run", "-w2", "d.dfa", "--strict", "w.in"] =
      .ok ⟨.run "d.dfa" (some "w.in"), { strict := true, workers? := some 2 }⟩ := by rfl
  have readLenientCheck : Invocation.ofArguments ["check", "d.dfa"] =
      .ok ⟨.check "d.dfa", {}⟩ := by rfl
  have readLenientRun : Invocation.ofArguments ["run", "d.dfa", "w.in"] =
      .ok ⟨.run "d.dfa" (some "w.in"), {}⟩ := by rfl
  refine ⟨⟨?_, by decide +kernel, by decide +kernel⟩, ?_, by decide +kernel, by decide +kernel⟩
  · exact judgeAlike_execute readCheck readRun rfl rfl rfl rfl rfl (by decide) strayTree .plain
  · exact judgeAlike_execute readLenientCheck readLenientRun rfl rfl rfl rfl rfl (by decide)
      lonelyTree .plain

end Acceptor.CommandLine
