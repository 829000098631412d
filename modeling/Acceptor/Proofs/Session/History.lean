import Acceptor.Session

/-!
Histories: the steps that a session takes, each with what was there before it and after it.

`Event.change` says all that a step can do to the two slots of a session.
-/

namespace Acceptor.Session

structure Event where
  /-- The session before the step. -/
  session : Session
  /-- The files before the step. -/
  tree : Tree
  step : Step
  result : Except Failure Answer
  after : World

namespace Event

def take (session : Session) (tree : Tree) (step : Step) : Event where
  session := session
  tree := tree
  step := step
  result := (session.take tree step).1
  after := (session.take tree step).2

def Succeeds (event : Event) : Prop :=
  ∃ answer, event.result = .ok answer

end Event

def history (session : Session) (tree : Tree) : List Step → List Event
  | [] => []
  | step :: rest =>
      let event := Event.take session tree step
      event :: history event.after.session event.after.tree rest

theorem map_step_history (session : Session) (tree : Tree) (steps : List Step) :
    (history session tree steps).map Event.step = steps := by
  induction steps generalizing session tree with
  | nil => rfl
  | cons step rest inductionHypothesis =>
      rw [history, List.map_cons, inductionHypothesis]
      rfl

theorem takeAll_cons (world : World) (step : Step) :
    ∃ next : World, next.session = (Event.take world.session world.tree step).after.session ∧
      next.tree = (Event.take world.session world.tree step).after.tree ∧
      ∀ rest, takeAll world (step :: rest) =
        ((Event.take world.session world.tree step).result :: (takeAll next rest).1,
          (takeAll next rest).2) :=
  ⟨{ (world.session.take world.tree step).2 with
      notices := world.notices ++ (world.session.take world.tree step).2.notices },
    rfl, rfl, fun _ => rfl⟩

theorem map_result_history (world : World) (steps : List Step) :
    (history world.session world.tree steps).map Event.result = (takeAll world steps).1 := by
  induction steps generalizing world with
  | nil => rfl
  | cons step rest inductionHypothesis =>
      obtain ⟨next, session, tree, taken⟩ := takeAll_cons world step
      rw [taken, ← inductionHypothesis next, session, tree]
      rfl

/-! ## What steps offer -/

namespace Step

/-- The step loads the definition, which is given or is read from a file. -/
inductive OffersDefinition (tree : Tree) : Step → DefinitionFile → Prop where
  | given (definition : DefinitionFile) :
      OffersDefinition tree (.loadDefinition definition) definition
  | read {path : String} {definition : DefinitionFile} :
      tree.readDefinition path = .ok definition →
      OffersDefinition tree (.loadDefinitionFile path) definition

/-- The step loads the input, which is given or is read from a file. -/
inductive OffersInput (tree : Tree) : Step → LoadedInput → Prop where
  | given (batch : Batch) : OffersInput tree (.loadInput batch) { batch, path? := none }
  | read {path : String} {batch : Batch} :
      tree.readInput path = .ok batch →
      OffersInput tree (.loadInputFile path) { batch, path? := some (Path.ofString path) }

def LoadsDefinition : Step → Prop
  | .loadDefinition _ | .loadDefinitionFile _ => True
  | _ => False

def LoadsInput : Step → Prop
  | .loadInput _ | .loadInputFile _ => True
  | _ => False

theorem OffersDefinition.loads {tree : Tree} {step : Step} {definition : DefinitionFile}
    (offers : step.OffersDefinition tree definition) :
    step.LoadsDefinition ∧ ¬ step.LoadsInput := by
  cases offers <;> exact ⟨trivial, id⟩

theorem OffersInput.loads {tree : Tree} {step : Step} {input : LoadedInput}
    (offers : step.OffersInput tree input) : step.LoadsInput ∧ ¬ step.LoadsDefinition := by
  cases offers <;> exact ⟨trivial, id⟩

theorem OffersInput.path?_isSome_iff {tree : Tree} {step : Step} {input : LoadedInput}
    (offers : step.OffersInput tree input) :
    input.path?.isSome = true ↔ ∃ path, step = .loadInputFile path := by
  cases offers <;> simp

end Step

namespace Event

/-- The event has a definition to load, and under the settings loading comes to an automaton. -/
structure Activates (settings : Settings) (event : Event) (active : Active) : Prop where
  offers : event.step.OffersDefinition event.tree active.definition
  loads : Definition.load settings.marker settings.policy active.definition.content =
    .ok active.loaded

/-- All that a step can do to the slots of a session. -/
inductive Change (event : Event) : Prop where
  | kept : event.after.session = event.session →
      (event.Succeeds → ¬ event.step.LoadsDefinition ∧ ¬ event.step.LoadsInput) → Change event
  | activated {active : Active} : event.Succeeds →
      event.Activates event.session.settings active →
      event.after.session = { event.session with active? := some active } → Change event
  | supplied {input : LoadedInput} : event.Succeeds →
      event.step.OffersInput event.tree input →
      event.after.session = { event.session with input? := some input } → Change event

end Event

variable {session next : Session} {tree : Tree} {definition : DefinitionFile}

theorem loadDefinition_eq_ok_iff :
    session.loadDefinition definition = .ok next ↔ ∃ loaded,
      Definition.load session.settings.marker session.settings.policy definition.content =
          .ok loaded ∧
        next = { session with active? := some { definition, loaded } } := by
  unfold loadDefinition
  cases Definition.load session.settings.marker session.settings.policy definition.content with
  | error error => simp
  | ok loaded => simp [eq_comm]

theorem take_loadDefinition_of_ok (tree : Tree)
    (loading : session.loadDefinition definition = .ok next) :
    session.take tree (.loadDefinition definition) =
      (.ok next.loadAnswer,
        { session := next, tree, notices := session.loadNotices definition }) := by
  unfold Session.take
  simp only [loading]

theorem take_loadDefinitionFile_of_ok {path : String}
    (reading : tree.readDefinition path = .ok definition)
    (loading : session.loadDefinition definition = .ok next) :
    session.take tree (.loadDefinitionFile path) =
      (.ok next.loadAnswer,
        { session := next
          tree
          notices := readNotice path definition :: session.loadNotices definition }) := by
  unfold Session.take
  simp only [reading, loading]

theorem take_loadInputFile_of_ok (session : Session) {path : String} {batch : Batch}
    (reading : tree.readInput path = .ok batch) :
    session.take tree (.loadInputFile path) =
      (.ok (.input batch),
        { session := session.withInput batch (some (Path.ofString path))
          tree
          notices := [.readInput batch.lines.length path] }) := by
  unfold Session.take
  simp only [reading]

section
variable {batch? : Option Batch} {cancelAfter? : Option Nat}

theorem take_run_of_error {failure : Failure}
    (running : session.run batch? cancelAfter? = .error failure) :
    session.take tree (.run batch? cancelAfter?) = (.error failure, { session, tree }) := by
  unfold Session.take
  simp only [running]

theorem take_run_of_ok {report : Report}
    (running : session.run batch? cancelAfter? = .ok report) :
    session.take tree (.run batch? cancelAfter?) =
      (.ok (.report report), { session, tree, notices := [.ofReport report] }) := by
  unfold Session.take
  simp only [running]

end

section
variable {report : Report} {path? : Option Path}

theorem take_save_of_error {failure : Failure}
    (saving : session.save tree report path? = .error failure) :
    session.take tree (.save report path?) = (.error failure, { session, tree }) := by
  unfold Session.take
  simp only [saving]

theorem take_save_of_ok {saved : Path × Tree}
    (saving : session.save tree report path? = .ok saved) :
    session.take tree (.save report path?) =
      (.ok (.saved saved.1),
        { session
          tree := saved.2
          notices := [.verdictsWritten report.verdicts.length saved.1.toString] }) := by
  unfold Session.take
  simp only [saving]

end

namespace Event

variable {step : Step} {failure : Failure} {answer : Answer} {world : World}

theorem result_of_taken {result : Except Failure Answer}
    (taken : session.take tree step = (result, world)) :
    (take session tree step).result = result :=
  congrArg Prod.fst taken

theorem session_after_of_taken {result : Except Failure Answer}
    (taken : session.take tree step = (result, world)) :
    (take session tree step).after.session = world.session :=
  congrArg (World.session ∘ Prod.snd) taken

theorem succeeds_of_taken (taken : session.take tree step = (.ok answer, world)) :
    (take session tree step).Succeeds :=
  ⟨answer, result_of_taken taken⟩

theorem change_of_error (taken : session.take tree step = (.error failure, world))
    (same : world.session = session) : (take session tree step).Change := by
  apply Change.kept
  · exact (session_after_of_taken taken).trans same
  · rintro ⟨answer, succeeded⟩
    rw [result_of_taken taken] at succeeded
    contradiction

theorem change_of_ok (taken : session.take tree step = (.ok answer, world))
    (same : world.session = session) (noDefinition : ¬ step.LoadsDefinition)
    (noInput : ¬ step.LoadsInput) : (take session tree step).Change := by
  apply Change.kept
  · exact (session_after_of_taken taken).trans same
  · intro _
    exact ⟨noDefinition, noInput⟩

theorem change_loadDefinition (session : Session) (tree : Tree) (definition : DefinitionFile) :
    (take session tree (.loadDefinition definition)).Change := by
  cases loading : session.loadDefinition definition with
  | error failure =>
      have taken : session.take tree (.loadDefinition definition) =
          (.error failure, { session, tree, notices := session.loadNotices definition }) := by
        unfold Session.take
        simp only [loading]
      exact change_of_error taken rfl
  | ok next =>
      have taken := take_loadDefinition_of_ok tree loading
      obtain ⟨loaded, accepted, rfl⟩ := loadDefinition_eq_ok_iff.mp loading
      have activates : (take session tree (.loadDefinition definition)).Activates session.settings
          { definition, loaded } := ⟨.given definition, accepted⟩
      exact .activated (succeeds_of_taken taken) activates
        (session_after_of_taken taken)

theorem change_loadDefinitionFile (session : Session) (tree : Tree) (path : String) :
    (take session tree (.loadDefinitionFile path)).Change := by
  cases reading : tree.readDefinition path with
  | error failure =>
      have taken : session.take tree (.loadDefinitionFile path) =
          (.error failure, { session, tree }) := by
        unfold Session.take
        simp only [reading]
      exact change_of_error taken rfl
  | ok definition =>
      cases loading : session.loadDefinition definition with
      | error failure =>
          have taken : session.take tree (.loadDefinitionFile path) =
              (.error failure,
                { session
                  tree
                  notices := readNotice path definition :: session.loadNotices definition }) := by
            unfold Session.take
            simp only [reading, loading]
          exact change_of_error taken rfl
      | ok next =>
          have taken := take_loadDefinitionFile_of_ok reading loading
          obtain ⟨loaded, accepted, rfl⟩ := loadDefinition_eq_ok_iff.mp loading
          have activates : (take session tree (.loadDefinitionFile path)).Activates session.settings
              { definition, loaded } := ⟨.read reading, accepted⟩
          exact .activated (succeeds_of_taken taken) activates
            (session_after_of_taken taken)

theorem change_take (session : Session) (tree : Tree) (step : Step) :
    (take session tree step).Change := by
  cases step with
  | loadDefinition definition => exact change_loadDefinition session tree definition
  | loadDefinitionFile path => exact change_loadDefinitionFile session tree path
  | loadInput batch => exact .supplied ⟨_, rfl⟩ (.given batch) rfl
  | loadInputFile path =>
      cases reading : tree.readInput path with
      | error failure =>
          have taken : session.take tree (.loadInputFile path) =
              (.error failure, { session, tree }) := by
            unfold Session.take
            simp only [reading]
          exact change_of_error taken rfl
      | ok batch =>
          have taken := take_loadInputFile_of_ok session reading
          exact .supplied (succeeds_of_taken taken) (.read reading)
            (session_after_of_taken taken)
  | run batch? cancelAfter? =>
      cases running : session.run batch? cancelAfter? with
      | error failure => exact change_of_error (take_run_of_error running) rfl
      | ok report => exact change_of_ok (take_run_of_ok running) rfl id id
  | save report path? =>
      cases saving : session.save tree report path? with
      | error failure => exact change_of_error (take_save_of_error saving) rfl
      | ok saved => exact change_of_ok (take_save_of_ok saving) rfl id id
  | install path content => exact .kept rfl fun _ => ⟨id, id⟩
  | installDirectory path => exact .kept rfl fun _ => ⟨id, id⟩

theorem succeeds_of_activates {active : Active}
    (activates : (take session tree step).Activates session.settings active) :
    (take session tree step).Succeeds := by
  obtain ⟨definition, loaded⟩ := active
  have loading : session.loadDefinition definition = .ok _ :=
    loadDefinition_eq_ok_iff.mpr ⟨loaded, activates.loads, rfl⟩
  have offers : step.OffersDefinition tree definition := activates.offers
  cases offers with
  | given => exact succeeds_of_taken (take_loadDefinition_of_ok tree loading)
  | read reading => exact succeeds_of_taken (take_loadDefinitionFile_of_ok reading loading)

theorem succeeds_of_offersInput {input : LoadedInput} (offers : step.OffersInput tree input) :
    (take session tree step).Succeeds := by
  cases offers with
  | given batch => exact ⟨_, rfl⟩
  | read reading => exact succeeds_of_taken (take_loadInputFile_of_ok session reading)

end Event

end Acceptor.Session
