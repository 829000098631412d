import Acceptor.Proofs.CommandLine.Story

/-!
Failures in the way of a command.

`Meets` says which failure is the first that a command meets.  Of all failures there are, only some
come up in what a command reads and writes, and of these the program names all but a few.
-/

namespace Acceptor

/-- The families that are told: a missing file, and what is wrong with a value. -/
def Failure.Family.told : List Failure.Family :=
  [.missingFile, .value, .definition, .json, .encoding]

/-- Failures that escape: paths that lead to directories, pass files or are too long, what libraries
refuse for other reasons than those that are told, and values that are asked for and left void. -/
inductive Failure.Escapes : Failure → Prop where
  | isDirectory (path : String) : Escapes (.access (.isDirectory path))
  | notDirectory (path : String) : Escapes (.access (.notDirectory path))
  | nameTooLong (path : String) : Escapes (.access (.nameTooLong path))
  | library {fault : LibraryFault} (untold : fault.family ∉ Family.told) :
      Escapes (.library fault)
  | noWorkerNumber : Escapes .noWorkerNumber
  | noInputPath : Escapes .noInputPath

/-- Failures of settings, of reading a text, and of writing what a run is asked for. -/
def Failure.ComesUp : Failure → Prop
  | .access _ | .fileNotFound _ | .notText _ _ | .settings _ | .emptyName _ | .output _
  | .library _ | .noWorkerNumber | .noInputPath => True
  | _ => False

theorem Failure.isReported_library_iff {fault : LibraryFault} :
    (Failure.library fault).isReported = true ↔ fault.family ∈ Family.told := by
  obtain ⟨family, message⟩ := fault
  cases family <;> simp [isReported, Failure.family, Family.told]

theorem Failure.isReported_iff {failure : Failure} (comesUp : failure.ComesUp) :
    failure.isReported = true ↔ ¬ failure.Escapes := by
  constructor
  · intro reported escapes
    cases escapes with
    | library untold => exact untold (isReported_library_iff.mp reported)
    | _ => cases reported
  · intro kept
    cases failure with
    | access error =>
        cases error with
        | isDirectory path => exact absurd (.isDirectory path) kept
        | notDirectory path => exact absurd (.notDirectory path) kept
        | nameTooLong path => exact absurd (.nameTooLong path) kept
        | notFound | nullByte => rfl
    | library fault =>
        by_contra unreported
        exact kept (.library fun told => unreported (isReported_library_iff.mpr told))
    | noWorkerNumber => exact absurd .noWorkerNumber kept
    | noInputPath => exact absurd .noInputPath kept
    | fileNotFound | notText | settings | emptyName | output => rfl
    | _ => contradiction

namespace CommandLine

/-! ## What can be in the way -/

def Command.definition : Command → String
  | .check definition => definition
  | .run definition _ => definition

def Export.write (libraries : Libraries) (input : String) (batch : Batch) (report : Report)
    (tree : Tree) : Export → Except Failure Tree
  | .verdicts => do
      let path ← (Path.ofString input).verdictPath.mapError Failure.emptyName
      tree.writeVerdicts report path
  | .report path => tree.writeReport report path
  | .frame path => do
      let rows ← (Frame.rows report (some batch)).mapError Failure.frame
      (libraries.writeTable tree rows path).mapError Failure.library
  | .picture path =>
      (libraries.writePicture tree ((Summary.ofReport report).chart report.filename)
        path).mapError Failure.library

/-- The failure is the first in the way of a command. -/
inductive Meets (libraries : Libraries) (tree : Tree) : Invocation → Failure → Prop where
  | settings {command : Command} {options : Options} {failure : Failure} :
      options.settings = .error failure → Meets libraries tree ⟨command, options⟩ failure
  | definition {command : Command} {options : Options} {settings : Settings} {failure : Failure} :
      options.settings = .ok settings →
      tree.readDefinition command.definition = .error failure →
      Meets libraries tree ⟨command, options⟩ failure
  | noInput {definition : String} {options : Options} {settings : Settings}
      {file : DefinitionFile} {loaded : Loaded} :
      options.settings = .ok settings →
      tree.readDefinition definition = .ok file →
      Definition.load settings.marker settings.policy file.content = .ok loaded →
      Meets libraries tree ⟨.run definition none, options⟩ .noInputPath
  | input {definition input : String} {options : Options} {settings : Settings}
      {file : DefinitionFile} {loaded : Loaded} {failure : Failure} :
      options.settings = .ok settings →
      tree.readDefinition definition = .ok file →
      Definition.load settings.marker settings.policy file.content = .ok loaded →
      tree.readInput input = .error failure →
      Meets libraries tree ⟨.run definition (some input), options⟩ failure
  | output {definition input : String} {options : Options} {settings : Settings}
      {loaded : Loaded} {batch : Batch} {failure : Failure} :
      Prepares options tree definition (some input) settings loaded batch →
      options.exports.foldlM (Export.write libraries input batch
        (batch.run loaded.automaton settings.workers none)) tree = .error failure →
      Meets libraries tree ⟨.run definition (some input), options⟩ failure

variable {libraries : Libraries} {failure : Failure} {tree : Tree}

/-! ## Failures of what is read and written -/

theorem comesUp_of_mapError {Fault Value : Type} {wrap : Fault → Failure}
    {step : Except Fault Value} (failed : step.mapError wrap = .error failure)
    (comesUp : ∀ fault, (wrap fault).ComesUp) : failure.ComesUp := by
  obtain ⟨fault, _, rfl⟩ := Except.mapError_eq_error_iff.mp failed
  exact comesUp fault

theorem comesUp_of_settings {options : Options} (failed : options.settings = .error failure) :
    failure.ComesUp := by
  unfold Options.settings at failed
  split at failed
  · exact comesUp_of_mapError failed fun _ => trivial
  · rcases Except.bind_eq_error_iff.mp failed with unmarked | ⟨_, _, void⟩
    · exact comesUp_of_mapError unmarked fun _ => trivial
    · cases void
      trivial

theorem comesUp_of_readText {path : String} (failed : tree.readText path = .error failure) :
    failure.ComesUp := by
  rcases Except.bind_eq_error_iff.mp failed with unheld | ⟨held, _, failed⟩
  · exact comesUp_of_mapError unheld fun _ => trivial
  split at failed
  · cases failed
    trivial
  rcases Except.bind_eq_error_iff.mp failed with unread | ⟨content, _, failed⟩
  · exact comesUp_of_mapError unread fun _ => trivial
  split at failed
  · cases failed
    trivial
  · split at failed
    · cases failed
      trivial
    · cases failed

theorem comesUp_of_readDefinition {path : String}
    (failed : tree.readDefinition path = .error failure) : failure.ComesUp := by
  rcases Except.bind_eq_error_iff.mp failed with unread | ⟨_, _, failed⟩
  · exact comesUp_of_readText unread
  · cases failed

theorem comesUp_of_readInput {path : String} (failed : tree.readInput path = .error failure) :
    failure.ComesUp := by
  rcases Except.bind_eq_error_iff.mp failed with unread | ⟨_, _, failed⟩
  · exact comesUp_of_readText unread
  · cases failed

section

variable {input : String} {batch : Batch} {automaton : Automaton} {workers : Workers}

theorem comesUp_of_write {output : Export}
    (failed : output.write libraries input batch (batch.run automaton workers none) tree =
      .error failure) : failure.ComesUp := by
  cases output with
  | verdicts =>
      rcases Except.bind_eq_error_iff.mp failed with unnamed | ⟨path, _, failed⟩
      · exact comesUp_of_mapError unnamed fun _ => trivial
      · rcases Except.bind_eq_error_iff.mp failed with silent | ⟨_, _, failed⟩
        · exact comesUp_of_mapError silent fun _ => trivial
        · exact comesUp_of_mapError failed fun _ => trivial
  | report path => exact comesUp_of_mapError failed fun _ => trivial
  | frame path =>
      obtain ⟨rows, made⟩ := Batch.exists_rows_run_none automaton workers batch
      rcases Except.bind_eq_error_iff.mp failed with unmade | ⟨_, _, failed⟩
      · rw [made] at unmade
        cases unmade
      · exact comesUp_of_mapError failed fun _ => trivial
  | picture path => exact comesUp_of_mapError failed fun _ => trivial

theorem comesUp_of_foldlM_write {outputs : List Export}
    (failed : outputs.foldlM
      (Export.write libraries input batch (batch.run automaton workers none)) tree =
        .error failure) : failure.ComesUp := by
  induction outputs generalizing tree with
  | nil => cases failed
  | cons output rest inductionHypothesis =>
      rcases Except.bind_eq_error_iff.mp failed with here | ⟨after, _, later⟩
      · exact comesUp_of_write here
      · exact inductionHypothesis later

end

theorem Meets.comesUp {invocation : Invocation} (meets : Meets libraries tree invocation failure) :
    failure.ComesUp := by
  cases meets with
  | settings failed => exact comesUp_of_settings failed
  | definition _ failed => exact comesUp_of_readDefinition failed
  | noInput => trivial
  | input _ _ _ failed => exact comesUp_of_readInput failed
  | output _ failed => exact comesUp_of_foldlM_write failed

end CommandLine

end Acceptor
