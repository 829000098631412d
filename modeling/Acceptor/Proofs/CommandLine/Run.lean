import Acceptor.Proofs.Batch.Run
import Acceptor.Proofs.CommandLine.Exports
import Acceptor.Proofs.Definition.Outcome
import Acceptor.Proofs.Session.Runs

/-!
The course of the commands: what they come to from one point on, once it is known how the step at
this point came out.
-/

namespace Acceptor.CommandLine

variable {libraries : Libraries} {options : Options} {settings : Settings} {tree : Tree}
  {definition input : String} {input? : Option String} {file : DefinitionFile}
  {failure : Failure} {transcript : Transcript} {session : Session} {active : Active}
  {batch : Batch} {loaded : Loaded}

/-! ## `check` -/

theorem check_of_unread (failed : tree.readDefinition definition = .error failure) :
    check options settings tree definition = conclude { tree } failure := by
  unfold check
  simp only [failed]

theorem check_of_refused {issues : List Issue} (read : tree.readDefinition definition = .ok file)
    (refused : Definition.check settings.marker settings.policy file.content = .error issues) :
    check options settings tree definition =
      ⟨.exit 1, (({ tree } : Transcript).log options.verbose
        (Session.readNotice definition file ::
          Notice.ofDefinition settings.marker settings.policy file.content)).print
        (issues.map fun issue => errorLine issue.render)⟩ := by
  unfold check
  simp only [read, refused]

theorem check_of_accepted {warnings : List Issue}
    (read : tree.readDefinition definition = .ok file)
    (accepted : Definition.check settings.marker settings.policy file.content = .ok warnings) :
    check options settings tree definition =
      ⟨.exit 0, (({ tree } : Transcript).log options.verbose
        (Session.readNotice definition file ::
          Notice.ofDefinition settings.marker settings.policy file.content)).print
        (warnings.map warningLine ++ [file.filename ++ ": ok"])⟩ := by
  unfold check
  simp only [read, accepted]

/-! ## `run` -/

theorem run_of_unread (failed : tree.readDefinition definition = .error failure) :
    run libraries options settings tree definition input? = conclude { tree } failure := by
  unfold run
  simp only [failed]

/-- What has been noted of a definition when it has been judged. -/
def noted (options : Options) (settings : Settings) (tree : Tree) (definition : String)
    (file : DefinitionFile) : Transcript :=
  ({ tree } : Transcript).log options.verbose
    (Session.readNotice definition file :: ({ settings } : Session).loadNotices file)

/-- No draft that passes all checks fails to be built, so nothing else is reported. -/
theorem family_of_load_eq_error {marker : CommentMarker} {policy : Policy} {text : String}
    {error : LoadError} (refused : Definition.load marker policy text = .error error) :
    (Failure.definition error).family = .definition := by
  obtain ⟨outcome, holds⟩ := Definition.exists_outcome marker policy text
  rw [refused] at holds
  cases outcome with
  | accepted =>
      obtain ⟨_, _, loading⟩ := holds
      cases loading
  | malformed =>
      obtain ⟨_, _, _, loading, _⟩ := holds
      cases loading
      rfl
  | refused =>
      obtain ⟨_, _, _, loading⟩ := holds
      cases loading
      rfl

theorem run_of_refused {error : LoadError}
    (read : tree.readDefinition definition = .ok file)
    (refused : Definition.load settings.marker settings.policy file.content = .error error) :
    run libraries options settings tree definition input? =
      ⟨.exit 1, (noted options settings tree definition file).complain
        [errorLine error.message]⟩ := by
  have told := family_of_load_eq_error refused
  have failed : ({ settings } : Session).loadDefinition file = .error (.definition error) := by
    simp only [Session.loadDefinition, refused]
  unfold run
  simp only [read, failed, told, if_true]
  rfl

theorem run_of_loaded
    (read : tree.readDefinition definition = .ok file)
    (accepted : Definition.load settings.marker settings.policy file.content = .ok loaded) :
    run libraries options settings tree definition input? =
      runInput libraries options { settings, active? := some { definition := file, loaded } }
        ((noted options settings tree definition file).complain
          (loaded.warnings.map warningLine)) input? := by
  have activated : ({ settings } : Session).loadDefinition file =
      .ok { settings, active? := some { definition := file, loaded } } :=
    Session.loadDefinition_eq_ok_iff.mpr ⟨loaded, accepted, rfl⟩
  unfold run
  simp only [read, activated]
  rfl

theorem runInput_of_unread (failed : transcript.tree.readInput input = .error failure) :
    runInput libraries options session transcript (some input) = conclude transcript failure := by
  unfold runInput
  simp only [failed]

theorem runInput_of_read (given : session.active? = some active)
    (read : transcript.tree.readInput input = .ok batch) :
    runInput libraries options session transcript (some input) =
      present libraries options (session.withInput batch (some (Path.ofString input))) batch
        (batch.run active.loaded.automaton session.settings.workers none)
        ((transcript.log options.verbose [.readInput batch.lines.length input]).log
          options.verbose
          [.ofReport (batch.run active.loaded.automaton session.settings.workers none)]) := by
  have ran : (session.withInput batch (some (Path.ofString input))).run none none =
      .ok (batch.run active.loaded.automaton session.settings.workers none) :=
    Session.run_eq_ok given rfl
  unfold runInput
  simp only [read, ran]

/-! ## Whole commands -/

theorem execute_of_ofArguments {arguments : List String} {invocation : Invocation}
    (read : Invocation.ofArguments arguments = .ok invocation) (tree : Tree) :
    execute arguments tree libraries = perform libraries invocation tree := by
  unfold execute
  simp only [read]

theorem perform_check (tree : Tree) (definition : String)
    (chosen : options.settings = .ok settings) :
    perform libraries ⟨.check definition, options⟩ tree =
      check options settings tree definition := by
  unfold perform
  simp only [chosen]

theorem perform_run (tree : Tree) (definition : String) (input? : Option String)
    (chosen : options.settings = .ok settings) :
    perform libraries ⟨.run definition input?, options⟩ tree =
      run libraries options settings tree definition input? := by
  unfold perform
  simp only [chosen]

def warned (options : Options) (settings : Settings) (tree : Tree) (definition : String)
    (file : DefinitionFile) (loaded : Loaded) : Transcript :=
  (noted options settings tree definition file).complain (loaded.warnings.map warningLine)

theorem hasWholeLines_noted (options : Options) (settings : Settings) (tree : Tree)
    (definition : String) (file : DefinitionFile) :
    (noted options settings tree definition file).HasWholeLines :=
  (Transcript.hasWholeLines_start tree).log _ _

theorem hasWholeLines_warned (options : Options) (settings : Settings) (tree : Tree)
    (definition : String) (file : DefinitionFile) (loaded : Loaded) :
    (warned options settings tree definition file loaded).HasWholeLines :=
  (hasWholeLines_noted options settings tree definition file).complain _

theorem perform_run_of_loaded (input? : Option String) (chosen : options.settings = .ok settings)
    (read : tree.readDefinition definition = .ok file)
    (accepted : Definition.load settings.marker settings.policy file.content = .ok loaded) :
    perform libraries ⟨.run definition input?, options⟩ tree =
      runInput libraries options { settings, active? := some { definition := file, loaded } }
        (warned options settings tree definition file loaded) input? := by
  rw [perform_run tree definition input? chosen, run_of_loaded read accepted]
  rfl

end Acceptor.CommandLine
