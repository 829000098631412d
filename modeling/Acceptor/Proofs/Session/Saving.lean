import Acceptor.Proofs.Path.Verdict
import Acceptor.Proofs.Report.Output
import Acceptor.Proofs.Session.Slots

/-!
What saving a report comes to.

The path is settled first and then the text, so a report that is refused touches no file.  What was
loaded last decides whether there is a path beside the input: the slot of the input remembers it.
-/

namespace Acceptor.Session

variable {session : Session} {tree : Tree} {events : List Event} {report : Report}
  {path? : Option Path} {target : Path} {failure : Failure}

/-! ## The input that was loaded last -/

/-- No input was loaded, or the one that was loaded last was not read from a file. -/
def LacksInputFile (events : List Event) : Prop :=
  (∀ event ∈ events, ¬ event.LoadsInput) ∨
    ∃ event, IsMostRecent Event.LoadsInput events event ∧
      ∀ path, event.step ≠ .loadInputFile path

/-- Verdicts are written to a path that is given, or else to the one beside the input file that was
loaded last. -/
inductive IsTarget (events : List Event) : Option Path → Path → Prop where
  | given (path : Path) : IsTarget events (some path) path
  | beside {event : Event} {path : String} {target : Path} :
      IsMostRecent Event.LoadsInput events event → event.step = .loadInputFile path →
      (Path.ofString path).verdictPath = .ok target → IsTarget events none target

theorem IsMostRecent.unique {relevant : Event → Prop} {event other : Event}
    (isLast : IsMostRecent relevant events event)
    (isOtherLast : IsMostRecent relevant events other) : event = other := by
  obtain ⟨earlier, later, rfl, isRelevant, none⟩ := isLast
  obtain ⟨otherEarlier, otherLater, split, isOtherRelevant, otherNone⟩ := isOtherLast
  rcases List.append_eq_append_iff.mp split with ⟨between, _, rest⟩ | ⟨between, _, rest⟩
  · cases between with
    | nil => exact (List.cons.inj rest).1
    | cons first others =>
        obtain ⟨_, rfl⟩ := List.cons.inj rest
        exact absurd isOtherRelevant (none other (by simp))
  · cases between with
    | nil => exact (List.cons.inj rest).1.symm
    | cons first others =>
        obtain ⟨_, rfl⟩ := List.cons.inj rest
        exact absurd isRelevant (otherNone event (by simp))

theorem Step.OffersInput.exists_path {step : Step} {input : LoadedInput} {path : Path}
    (offers : step.OffersInput tree input) (found : input.path? = some path) :
    ∃ text batch, step = .loadInputFile text ∧ path = Path.ofString text ∧
      tree.readInput text = .ok batch := by
  cases offers with
  | given => cases found
  | read reading =>
      cases found
      exact ⟨_, _, rfl, rfl, reading⟩

theorem Step.OffersInput.path?_eq {step : Step} {input : LoadedInput} {text : String}
    (offers : step.OffersInput tree input) (isFile : step = .loadInputFile text) :
    input.path? = some (Path.ofString text) := by
  cases offers with
  | given => cases isFile
  | read reading =>
      cases isFile
      rfl

section
variable {slot : Option LoadedInput}
  (holds : HoldsMostRecent Event.LoadsInput Event.Supplies events slot)
include holds

theorem exists_supplies_of_mostRecent {event : Event}
    (isLast : IsMostRecent Event.LoadsInput events event) :
    ∃ input, slot = some input ∧ event.Supplies input := by
  cases found : slot with
  | none => exact absurd isLast.relevant (holds.eq_none_iff.mp found event isLast.mem)
  | some input =>
      obtain ⟨other, isOtherLast, supplies⟩ := holds.exists_event input found
      exact ⟨input, rfl, isLast.unique isOtherLast ▸ supplies⟩

theorem path?_eq_none_iff : slot.bind LoadedInput.path? = none ↔ LacksInputFile events := by
  constructor
  · intro pathless
    cases found : slot with
    | none => exact .inl (holds.eq_none_iff.mp found)
    | some input =>
        obtain ⟨event, isLast, supplies⟩ := holds.exists_event input found
        refine .inr ⟨event, isLast, fun path isFile => ?_⟩
        have hasPath := supplies.path_iff.mpr ⟨path, isFile⟩
        rw [found] at pathless
        rw [Option.isSome_iff_ne_none] at hasPath
        exact hasPath pathless
  · intro lacks
    rcases lacks with none | ⟨event, isLast, noFile⟩
    · rw [holds.eq_none_iff.mpr none]
      rfl
    · obtain ⟨input, rfl, supplies⟩ := exists_supplies_of_mostRecent holds isLast
      apply Option.not_isSome_iff_eq_none.mp
      intro hasPath
      obtain ⟨path, isFile⟩ := supplies.path_iff.mp hasPath
      exact noFile path isFile

theorem path?_of_mostRecent {event : Event} {path : String}
    (isLast : IsMostRecent Event.LoadsInput events event)
    (isFile : event.step = .loadInputFile path) :
    slot.bind LoadedInput.path? = some (Path.ofString path) := by
  obtain ⟨input, rfl, supplies⟩ := exists_supplies_of_mostRecent holds isLast
  exact supplies.offers.path?_eq isFile

theorem exists_mostRecent_of_path? {path : Path}
    (found : slot.bind LoadedInput.path? = some path) :
    ∃ event text, IsMostRecent Event.LoadsInput events event ∧ event.step = .loadInputFile text ∧
      path = Path.ofString text ∧ path.names ≠ [] := by
  obtain ⟨input, loaded, hasPath⟩ := Option.bind_eq_some_iff.mp found
  obtain ⟨event, isLast, supplies⟩ := holds.exists_event input loaded
  obtain ⟨text, batch, isFile, rfl, reading⟩ := supplies.offers.exists_path hasPath
  -- A file was read along the path, so the path has a name.
  obtain ⟨place, content, stores, _⟩ := Tree.exists_storesAt_of_readInput reading
  exact ⟨event, text, isLast, isFile, rfl, stores.names_ne_nil⟩

end

/-! ## Where verdicts are written -/

section
variable (holds : HoldsMostRecent Event.LoadsInput Event.Supplies events session.input?)
include holds

/-- Unless an input file is asked for and missing, there is a path to write to. -/
theorem outputPath_cases (path? : Option Path) :
    (path? = none ∧ LacksInputFile events ∧ session.outputPath path? = .error .noInputFile) ∨
      ∃ target, IsTarget events path? target ∧ session.outputPath path? = .ok target := by
  cases path? with
  | some path => exact .inr ⟨path, .given path, rfl⟩
  | none =>
      cases found : session.input?.bind LoadedInput.path? with
      | none =>
          refine .inl ⟨rfl, (path?_eq_none_iff holds).mp found, ?_⟩
          simp only [outputPath, found]
      | some path =>
          obtain ⟨event, text, isLast, isFile, rfl, named⟩ :=
            exists_mostRecent_of_path? holds found
          obtain ⟨target, placed, _⟩ := Path.exists_standsBeside named
          refine .inr ⟨target, .beside isLast isFile placed, ?_⟩
          simp only [outputPath, found, placed]
          rfl

theorem outputPath_of_isTarget (isTarget : IsTarget events path? target) :
    session.outputPath path? = .ok target := by
  cases isTarget with
  | given => rfl
  | beside isLast isFile placed =>
      simp only [outputPath, path?_of_mostRecent holds isLast isFile, placed]
      rfl

theorem outputPath_of_lacksInputFile (lacks : LacksInputFile events) :
    session.outputPath none = .error .noInputFile := by
  simp only [outputPath, (path?_eq_none_iff holds).mpr lacks]

end

/-! ## What is written -/

/-- All that saving a report after some events can come to. -/
inductive Outcome (events : List Event) (tree : Tree) (report : Report) (path? : Option Path) :
    Except Failure (Path × Tree) → Prop where
  | lacking : path? = none → LacksInputFile events →
      Outcome events tree report path? (.error .noInputFile)
  | refused {target : Path} : IsTarget events path? target → report.cancelled = true →
      Outcome events tree report path? (.error (.output .cancelled))
  | unwritable {target : Path} {text : String} {error : AccessError} :
      IsTarget events path? target → report.cancelled = false →
      tree.write target.toString (.ofText text) = .error error →
      Outcome events tree report path? (.error (.access error))
  | written {target : Path} {words : List String} {after : Tree} :
      IsTarget events path? target → report.cancelled = false →
      List.Forall₂ Report.IsWordOf report.verdicts words →
      tree.write target.toString (.ofText (Report.wordsText words)) = .ok after →
      Outcome events tree report path? (.ok (target, after))

theorem save_of_outputPath {text : String} (placing : session.outputPath path? = .ok target)
    (output : report.output = .ok text) :
    session.save tree report path? =
      ((tree.write target.toString (.ofText text)).mapError Failure.access).map (target, ·) := by
  rw [save, placing]
  simp only [Tree.writeVerdicts, output, Except.mapError, bind, Except.bind, pure, Except.pure]
  cases tree.write target.toString (.ofText text) <;> rfl

theorem outcome_save (holds : HoldsMostRecent Event.LoadsInput Event.Supplies events session.input?)
    (tree : Tree) (report : Report) (path? : Option Path) :
    Outcome events tree report path? (session.save tree report path?) := by
  rcases outputPath_cases holds path? with ⟨pathless, lacks, placing⟩ | ⟨target, isTarget, placing⟩
  · rw [save, placing]
    exact .lacking pathless lacks
  · cases cancelled : report.cancelled with
    | true =>
        rw [save, placing]
        simp only [Tree.writeVerdicts, Report.output_of_cancelled cancelled]
        exact .refused isTarget cancelled
    | false =>
        obtain ⟨words, areWords, output⟩ := Report.exists_words cancelled
        rw [save_of_outputPath placing output]
        cases written : tree.write target.toString (.ofText (Report.wordsText words)) with
        | error error => exact .unwritable isTarget cancelled written
        | ok after => exact .written isTarget cancelled areWords written

section
variable (holds : HoldsMostRecent Event.LoadsInput Event.Supplies events session.input?)
include holds

theorem IsTarget.unique {other : Path} (isTarget : IsTarget events path? target)
    (isOther : IsTarget events path? other) : target = other :=
  Except.ok.inj
    ((outputPath_of_isTarget holds isTarget).symm.trans (outputPath_of_isTarget holds isOther))

theorem IsTarget.not_lacksInputFile (isTarget : IsTarget events path? target) :
    ¬ (path? = none ∧ LacksInputFile events) := by
  intro lacking
  obtain ⟨rfl, lacks⟩ := lacking
  have placing := outputPath_of_isTarget holds isTarget
  rw [outputPath_of_lacksInputFile holds lacks] at placing
  contradiction

end

/-! ## Saving -/

namespace Event

/-- The report is written to the target and nowhere else, a word on a line for each verdict, and
the file is read back as these words. -/
structure Writes (report : Report) (target : Path) (saving : Event) : Prop where
  result_eq : saving.result = .ok (.saved target)
  exists_words : ∃ words place, List.Forall₂ Report.IsWordOf report.verdicts words ∧
    saving.tree.place? target.toString = some place ∧
    saving.after.tree.home = saving.tree.home ∧
    (∀ other, other ≠ place → saving.after.tree.node? other = saving.tree.node? other) ∧
    saving.after.tree.read target.toString = .ok (.ofText (Report.wordsText words)) ∧
    saving.after.tree.readInput target.toString =
      .ok { filename := (Path.ofString target.toString).name, lines := words }

/-- What comes of saving a report after some events. -/
structure Saves (events : List Event) (report : Report) (path? : Option Path) (saving : Event) :
    Prop where
  fails_iff : ∀ message, saving.FailsWith .state message ↔
    message = "no input file loaded" ∧ path? = none ∧ LacksInputFile events
  exists_target : ¬ (path? = none ∧ LacksInputFile events) →
    ∃ target, IsTarget events path? target
  refuses : ∀ target, IsTarget events path? target → report.cancelled = true →
    saving.FailsWith .value "cannot format a cancelled report"
  succeeds_iff : ∀ target, IsTarget events path? target → report.cancelled = false →
    (saving.Succeeds ↔ saving.tree.IsWritable target.toString)
  writes : ∀ target, IsTarget events path? target → saving.Succeeds → Writes report target saving
  tree_eq_of_failure : ¬ saving.Succeeds → saving.after.tree = saving.tree

theorem failsWith_of_save {family : Failure.Family} {message : String}
    (saved : session.save tree report path? = .error failure) :
    (take session tree (.save report path?)).FailsWith family message ↔
      failure.family = family ∧ failure.message = message := by
  unfold FailsWith
  rw [result_of_taken (take_save_of_error saved)]
  simp

theorem not_failsWith_of_save {family : Failure.Family} {message : String} {saved : Path × Tree}
    (isSaved : session.save tree report path? = .ok saved) :
    ¬ (take session tree (.save report path?)).FailsWith family message := by
  unfold FailsWith
  rw [result_of_taken (take_save_of_ok isSaved)]
  simp

theorem not_succeeds_of_save (saved : session.save tree report path? = .error failure) :
    ¬ (take session tree (.save report path?)).Succeeds := by
  unfold Succeeds
  rw [result_of_taken (take_save_of_error saved)]
  simp

theorem family_access_ne_state (error : AccessError) : (Failure.access error).family ≠ .state := by
  cases error <;> nofun

theorem writes_of_save {words : List String} {after : Tree}
    (saved : session.save tree report path? = .ok (target, after))
    (areWords : List.Forall₂ Report.IsWordOf report.verdicts words)
    (written : tree.write target.toString (.ofText (Report.wordsText words)) = .ok after) :
    (take session tree (.save report path?)).Writes report target := by
  have taken := take_save_of_ok saved
  have sameTree : (take session tree (.save report path?)).after.tree = after :=
    congrArg (World.tree ∘ Prod.snd) taken
  obtain ⟨place, isPlace, free, rfl, stores⟩ := Tree.exists_place_of_write written
  refine ⟨result_of_taken taken, words, place, areWords, isPlace, ?_⟩
  rw [sameTree]
  refine ⟨rfl, ?_, stores.read, Report.readInput_of_storesAt areWords stores⟩
  intro other different
  exact (Tree.node?_putFile free.ne_root other).trans (if_neg (Ne.symm different))

theorem tree_after_of_not_succeeds (fails : ¬ (take session tree (.save report path?)).Succeeds) :
    (take session tree (.save report path?)).after.tree = tree := by
  cases saved : session.save tree report path? with
  | error failure => exact congrArg (World.tree ∘ Prod.snd) (take_save_of_error saved)
  | ok after => exact absurd (succeeds_of_taken (take_save_of_ok saved)) fails

section
variable (holds : HoldsMostRecent Event.LoadsInput Event.Supplies events session.input?)
include holds

theorem failsWith_state_iff {message : String} :
    (take session tree (.save report path?)).FailsWith .state message ↔
      message = "no input file loaded" ∧ path? = none ∧ LacksInputFile events := by
  have outcome := outcome_save holds tree report path?
  generalize saved : session.save tree report path? = result at outcome
  cases outcome with
  | lacking pathless lacks =>
      rw [failsWith_of_save saved]
      constructor
      · intro told
        exact ⟨told.2.symm, pathless, lacks⟩
      · intro told
        exact ⟨rfl, told.1.symm⟩
  | refused isTarget cancelled =>
      rw [failsWith_of_save saved]
      apply iff_of_false (fun told => nomatch told.1)
      exact fun lacking => isTarget.not_lacksInputFile holds lacking.2
  | @unwritable _ _ error isTarget _ _ =>
      rw [failsWith_of_save saved]
      apply iff_of_false (fun told => family_access_ne_state error told.1)
      exact fun lacking => isTarget.not_lacksInputFile holds lacking.2
  | written isTarget _ _ _ =>
      apply iff_of_false (not_failsWith_of_save saved)
      exact fun lacking => isTarget.not_lacksInputFile holds lacking.2

theorem failsWith_of_cancelled (isTarget : IsTarget events path? target)
    (cancelled : report.cancelled = true) :
    (take session tree (.save report path?)).FailsWith .value
      "cannot format a cancelled report" := by
  have outcome := outcome_save holds tree report path?
  generalize saved : session.save tree report path? = result at outcome
  cases outcome with
  | lacking pathless lacks => exact absurd ⟨pathless, lacks⟩ (isTarget.not_lacksInputFile holds)
  | refused _ _ => exact (failsWith_of_save saved).mpr ⟨rfl, rfl⟩
  | unwritable _ finished _ | written _ finished _ _ =>
      rw [cancelled] at finished
      contradiction

theorem succeeds_iff_isWritable (isTarget : IsTarget events path? target)
    (finished : report.cancelled = false) :
    (take session tree (.save report path?)).Succeeds ↔ tree.IsWritable target.toString := by
  have outcome := outcome_save holds tree report path?
  generalize saved : session.save tree report path? = result at outcome
  cases outcome with
  | lacking pathless lacks => exact absurd ⟨pathless, lacks⟩ (isTarget.not_lacksInputFile holds)
  | refused _ cancelled =>
      rw [cancelled] at finished
      contradiction
  | unwritable isOther _ failed =>
      obtain rfl := isTarget.unique holds isOther
      apply iff_of_false (not_succeeds_of_save saved)
      intro writable
      obtain ⟨after, written⟩ := writable.exists_write _
      rw [written] at failed
      contradiction
  | written isOther _ _ written =>
      obtain rfl := isTarget.unique holds isOther
      exact iff_of_true (succeeds_of_taken (take_save_of_ok saved)) ⟨_, _, written⟩

theorem writes_of_succeeds (isTarget : IsTarget events path? target)
    (succeeds : (take session tree (.save report path?)).Succeeds) :
    (take session tree (.save report path?)).Writes report target := by
  have outcome := outcome_save holds tree report path?
  generalize saved : session.save tree report path? = result at outcome
  cases outcome with
  | lacking _ _ | refused _ _ | unwritable _ _ _ =>
      exact absurd succeeds (not_succeeds_of_save saved)
  | written isOther _ areWords written =>
      obtain rfl := isTarget.unique holds isOther
      exact writes_of_save saved areWords written

theorem saves_take (tree : Tree) (report : Report) (path? : Option Path) :
    Saves events report path? (take session tree (.save report path?)) where
  fails_iff _ := failsWith_state_iff holds
  exists_target covered := by
    rcases outputPath_cases holds path? with ⟨pathless, lacks, _⟩ | ⟨target, isTarget, _⟩
    · exact absurd ⟨pathless, lacks⟩ covered
    · exact ⟨target, isTarget⟩
  refuses _ := failsWith_of_cancelled holds
  succeeds_iff _ := succeeds_iff_isWritable holds
  writes _ := writes_of_succeeds holds
  tree_eq_of_failure := tree_after_of_not_succeeds

end

end Event

/-! ## Whole runs -/

/-- Whatever was done before, saving a report writes all of it or changes no file, and a path beside
an input lies in the directory of the input. -/
theorem saves_and_exists_standsBeside (settings : Settings) (tree files : Tree)
    (steps : List Step) (report : Report) (path? : Option Path) :
    let events := history { settings } tree steps
    let final := (takeAll { session := { settings }, tree } steps).2.session
    (Event.take final files (.save report path?)).Saves events report path? ∧
      (report.cancelled = false → ∃ words, List.Forall₂ Report.IsWordOf report.verdicts words ∧
        report.output = .ok (Report.wordsText words)) ∧
      ∀ path, (Path.ofString path).names ≠ [] →
        ∃ target, (Path.ofString path).verdictPath = .ok target ∧
          Path.StandsBeside (Path.ofString path) target := by
  intro events final
  have follows := follows_history settings tree steps
  exact ⟨Event.saves_take follows.input files report path?, Report.exists_words,
    fun path => Path.exists_standsBeside⟩

end Acceptor.Session
