import Acceptor.Proofs.Session.Runs

/-!
The slots of a session over whole runs.

After any steps, each slot holds what the last successful load of its kind gave it.  A step
that fails, and a step that loads nothing, leaves both slots alone.
-/

namespace Acceptor.Session

/-! ## The last of some events -/

def IsMostRecent (relevant : Event → Prop) (events : List Event) (event : Event) : Prop :=
  ∃ earlier later, events = earlier ++ event :: later ∧ relevant event ∧
    ∀ other ∈ later, ¬ relevant other

theorem IsMostRecent.cons {relevant : Event → Prop} {events : List Event} {event : Event}
    (mostRecent : IsMostRecent relevant events event) (first : Event) :
    IsMostRecent relevant (first :: events) event := by
  obtain ⟨earlier, later, rfl, isRelevant, others⟩ := mostRecent
  exact ⟨first :: earlier, later, rfl, isRelevant, others⟩

theorem IsMostRecent.relevant {relevant : Event → Prop} {events : List Event} {event : Event}
    (mostRecent : IsMostRecent relevant events event) : relevant event := by
  obtain ⟨_, _, _, isRelevant, _⟩ := mostRecent
  exact isRelevant

theorem IsMostRecent.mem {relevant : Event → Prop} {events : List Event} {event : Event}
    (mostRecent : IsMostRecent relevant events event) : event ∈ events := by
  obtain ⟨earlier, later, rfl, _⟩ := mostRecent
  simp

/-- A slot holds what the last relevant event gave, and nothing if there was none. -/
structure HoldsMostRecent {Value : Type} (relevant : Event → Prop)
    (gives : Event → Value → Prop) (events : List Event) (slot : Option Value) : Prop where
  eq_none_iff : slot = none ↔ ∀ event ∈ events, ¬ relevant event
  exists_event : ∀ value, slot = some value →
    ∃ event, IsMostRecent relevant events event ∧ gives event value

/-- Relevant steps give a slot its value, and others leave it alone. -/
structure IsSetBy {Value : Type} (relevant : Event → Prop) (gives : Event → Value → Prop)
    (slot : Session → Option Value) : Prop where
  set : ∀ session tree step, relevant (Event.take session tree step) →
    ∃ value, gives (Event.take session tree step) value ∧
      slot (Event.take session tree step).after.session = some value
  kept : ∀ session tree step, ¬ relevant (Event.take session tree step) →
    slot (Event.take session tree step).after.session = slot session

section
variable {Value : Type} {relevant : Event → Prop} {gives : Event → Value → Prop}
  {slot : Session → Option Value}

theorem IsSetBy.slot_takeAll (isSetBy : IsSetBy relevant gives slot) (world : World)
    (steps : List Step) :
    (slot (takeAll world steps).2.session = slot world.session ∧
        ∀ event ∈ history world.session world.tree steps, ¬ relevant event) ∨
      ∃ event value, IsMostRecent relevant (history world.session world.tree steps) event ∧
        gives event value ∧ slot (takeAll world steps).2.session = some value := by
  induction steps generalizing world with
  | nil => exact .inl ⟨rfl, by simp [history]⟩
  | cons step rest inductionHypothesis =>
      obtain ⟨next, session, tree, taken⟩ := takeAll_cons world step
      rw [taken, history, ← session, ← tree]
      -- A relevant event of the rest comes after this one; otherwise this one may be the last.
      rcases inductionHypothesis next with ⟨same, irrelevant⟩ | ⟨event, value, last, given, found⟩
      · by_cases isRelevant : relevant (Event.take world.session world.tree step)
        · obtain ⟨value, given, found⟩ := isSetBy.set _ _ _ isRelevant
          rw [← session] at found
          exact .inr ⟨_, value, ⟨[], _, rfl, isRelevant, irrelevant⟩, given, same.trans found⟩
        · have kept := isSetBy.kept _ _ _ isRelevant
          rw [← session] at kept
          exact .inl ⟨same.trans kept, List.forall_mem_cons.mpr ⟨isRelevant, irrelevant⟩⟩
      · exact .inr ⟨event, value, last.cons _, given, found⟩

theorem IsSetBy.holdsMostRecent_takeAll (isSetBy : IsSetBy relevant gives slot) (world : World)
    (empty : slot world.session = none) (steps : List Step) :
    HoldsMostRecent relevant gives (history world.session world.tree steps)
      (slot (takeAll world steps).2.session) := by
  rcases isSetBy.slot_takeAll world steps with ⟨same, irrelevant⟩ | ⟨event, value, last, given, found⟩
  · rw [same, empty]
    exact ⟨iff_of_true rfl irrelevant, by simp⟩
  · rw [found]
    constructor
    · apply iff_of_false (by simp)
      intro irrelevant
      exact irrelevant event last.mem last.relevant
    · intro other same
      cases same
      exact ⟨event, last, given⟩

end

/-! ## The two slots -/

namespace Event

def LoadsDefinition (event : Event) : Prop :=
  event.step.LoadsDefinition ∧ event.Succeeds

def LoadsInput (event : Event) : Prop :=
  event.step.LoadsInput ∧ event.Succeeds

/-- The event has an input to load, which has a path if it is read from a file. -/
structure Supplies (event : Event) (input : LoadedInput) : Prop where
  offers : event.step.OffersInput event.tree input
  path_iff : input.path?.isSome = true ↔ ∃ path, event.step = .loadInputFile path

theorem isSetBy_active? :
    IsSetBy LoadsDefinition (fun event active => event.Activates event.session.settings active)
      Session.active? := by
  constructor
  · rintro session tree step ⟨loads, succeeds⟩
    cases change_take session tree step with
    | kept same loadsNothing => exact absurd loads (loadsNothing succeeds).1
    | activated _ activates becomes => exact ⟨_, activates, by rw [becomes]⟩
    | supplied _ offers _ => exact absurd loads offers.loads.2
  · intro session tree step loadsNone
    cases change_take session tree step with
    | kept same _ => rw [same]; rfl
    | activated succeeds activates _ => exact absurd ⟨activates.offers.loads.1, succeeds⟩ loadsNone
    | supplied _ _ becomes => rw [becomes]; rfl

theorem isSetBy_input? : IsSetBy LoadsInput Supplies Session.input? := by
  constructor
  · rintro session tree step ⟨loads, succeeds⟩
    cases change_take session tree step with
    | kept same loadsNothing => exact absurd loads (loadsNothing succeeds).2
    | activated _ activates _ => exact absurd loads activates.offers.loads.2
    | supplied _ offers becomes =>
        exact ⟨_, ⟨offers, offers.path?_isSome_iff⟩, by rw [becomes]⟩
  · intro session tree step loadsNone
    cases change_take session tree step with
    | kept same _ => rw [same]; rfl
    | activated _ _ becomes => rw [becomes]; rfl
    | supplied succeeds offers _ => exact absurd ⟨offers.loads.1, succeeds⟩ loadsNone

theorem settings_take (session : Session) (tree : Tree) (step : Step) :
    (take session tree step).after.session.settings = session.settings := by
  cases change_take session tree step with
  | kept same _ => rw [same]; rfl
  | activated _ _ becomes => rw [becomes]; rfl
  | supplied _ _ becomes => rw [becomes]; rfl

theorem session_after_of_not_succeeds {session : Session} {tree : Tree} {step : Step}
    (fails : ¬ (take session tree step).Succeeds) :
    (take session tree step).after.session = session := by
  cases change_take session tree step with
  | kept same _ => exact same
  | activated succeeds _ _ => exact absurd succeeds fails
  | supplied succeeds _ _ => exact absurd succeeds fails

theorem session_after_of_not_loads {session : Session} {tree : Tree} {step : Step}
    (noDefinition : ¬ step.LoadsDefinition) (noInput : ¬ step.LoadsInput) :
    (take session tree step).after.session = session := by
  cases change_take session tree step with
  | kept same _ => exact same
  | activated _ activates _ => exact absurd activates.offers.loads.1 noDefinition
  | supplied _ offers _ => exact absurd offers.loads.1 noInput

theorem loadsDefinition_take_iff {session : Session} {tree : Tree} {step : Step} :
    (take session tree step).LoadsDefinition ↔
      ∃ active, (take session tree step).Activates session.settings active := by
  constructor
  · intro loads
    obtain ⟨active, activates, _⟩ := isSetBy_active?.set _ _ _ loads
    exact ⟨active, activates⟩
  · rintro ⟨active, activates⟩
    exact ⟨activates.offers.loads.1, succeeds_of_activates activates⟩

theorem loadsInput_take_iff {session : Session} {tree : Tree} {step : Step} :
    (take session tree step).LoadsInput ↔
      ∃ input, (take session tree step).Supplies input := by
  constructor
  · intro loads
    obtain ⟨input, supplies, _⟩ := isSetBy_input?.set _ _ _ loads
    exact ⟨input, supplies⟩
  · rintro ⟨input, supplies⟩
    exact ⟨supplies.offers.loads.1, succeeds_of_offersInput supplies.offers⟩

end Event

/-! ## Whole runs -/

/-- What holds of a session under some settings after some events, and of the events. -/
structure Follows (settings : Settings) (events : List Event) (final : Session) : Prop where
  active : HoldsMostRecent Event.LoadsDefinition
    (fun event active => event.Activates settings active) events final.active?
  input : HoldsMostRecent Event.LoadsInput Event.Supplies events final.input?
  loadsDefinition_iff : ∀ event ∈ events,
    (event.LoadsDefinition ↔ ∃ active, event.Activates settings active)
  loadsInput_iff : ∀ event ∈ events, (event.LoadsInput ↔ ∃ input, event.Supplies input)
  kept_of_failure : ∀ event ∈ events, ¬ event.Succeeds → event.after.session = event.session
  kept_of_not_loads : ∀ event ∈ events, ¬ event.step.LoadsDefinition → ¬ event.step.LoadsInput →
    event.after.session = event.session
  runs : ∀ event ∈ events, ∀ batch? cancelAfter?, event.step = .run batch? cancelAfter? →
    event.Runs batch? cancelAfter?

theorem exists_take_of_mem_history {session : Session} {tree : Tree} {steps : List Step}
    {event : Event} (membership : event ∈ history session tree steps) :
    ∃ before files step, event = Event.take before files step ∧
      before.settings = session.settings := by
  induction steps generalizing session tree with
  | nil => simp [history] at membership
  | cons step rest inductionHypothesis =>
      rcases List.mem_cons.mp membership with rfl | later
      · exact ⟨session, tree, step, rfl, rfl⟩
      · obtain ⟨before, files, taken, same, settings⟩ := inductionHypothesis later
        exact ⟨before, files, taken, same, settings.trans (Event.settings_take _ _ _)⟩

theorem HoldsMostRecent.imp {Value : Type} {relevant : Event → Prop}
    {gives gives' : Event → Value → Prop} {events : List Event} {slot : Option Value}
    (holds : HoldsMostRecent relevant gives events slot)
    (imp : ∀ event ∈ events, ∀ value, gives event value → gives' event value) :
    HoldsMostRecent relevant gives' events slot := by
  refine ⟨holds.eq_none_iff, ?_⟩
  intro value found
  obtain ⟨event, last, given⟩ := holds.exists_event value found
  exact ⟨event, last, imp event last.mem value given⟩

/-- From the empty session any steps, failing ones among them, lead where the steps say. -/
theorem follows_history (settings : Settings) (tree : Tree) (steps : List Step) :
    Follows settings (history { settings } tree steps)
      (takeAll { session := { settings }, tree } steps).2.session := by
  let start : World := { session := { settings }, tree }
  have active := Event.isSetBy_active?.holdsMostRecent_takeAll start rfl steps
  constructor
  · apply active.imp
    intro event membership value activates
    obtain ⟨before, files, step, rfl, same⟩ := exists_take_of_mem_history membership
    change Event.Activates before.settings _ value at activates
    rwa [same] at activates
  · exact Event.isSetBy_input?.holdsMostRecent_takeAll start rfl steps
  · intro event membership
    obtain ⟨before, files, step, rfl, same⟩ := exists_take_of_mem_history membership
    rw [Event.loadsDefinition_take_iff, same]
  · intro event membership
    obtain ⟨before, files, step, rfl, _⟩ := exists_take_of_mem_history membership
    exact Event.loadsInput_take_iff
  · intro event membership fails
    obtain ⟨before, files, step, rfl, _⟩ := exists_take_of_mem_history membership
    exact Event.session_after_of_not_succeeds fails
  · intro event membership noDefinition noInput
    obtain ⟨before, files, step, rfl, _⟩ := exists_take_of_mem_history membership
    exact Event.session_after_of_not_loads noDefinition noInput
  · rintro event membership batch? cancelAfter? isRun
    obtain ⟨before, files, step, rfl, _⟩ := exists_take_of_mem_history membership
    subst isRun
    exact Event.runs_take before files batch? cancelAfter?

/-- A session is, before each of its events, what the steps up to there have made of it. -/
theorem exists_steps_of_history_eq (world : World) {steps : List Step}
    {earlier later : List Event} {event : Event}
    (split : history world.session world.tree steps = earlier ++ event :: later) :
    ∃ stepsBefore, earlier = history world.session world.tree stepsBefore ∧
      event.session = (takeAll world stepsBefore).2.session := by
  induction earlier generalizing world steps with
  | nil =>
      cases steps with
      | nil => simp [history] at split
      | cons step rest =>
          obtain ⟨rfl, _⟩ := List.cons.inj split
          exact ⟨[], rfl, rfl⟩
  | cons first earlier inductionHypothesis =>
      cases steps with
      | nil => simp [history] at split
      | cons step rest =>
          obtain ⟨rfl, restSplit⟩ := List.cons.inj split
          obtain ⟨next, session, tree, taken⟩ := takeAll_cons world step
          rw [← session, ← tree] at restSplit
          obtain ⟨stepsBefore, rfl, reached⟩ := inductionHypothesis next restSplit
          refine ⟨step :: stepsBefore, ?_, ?_⟩
          · rw [history, session, tree]
          · rw [taken, reached]

/-- Each session of a run, the last one and those before each step, follows from what was done
up to there. -/
theorem follows_takeAll (settings : Settings) (tree : Tree) (steps : List Step) :
    let start : World := { session := { settings }, tree }
    let events := history { settings } tree steps
    events.map Event.step = steps ∧ events.map Event.result = (takeAll start steps).1 ∧
      Follows settings events (takeAll start steps).2.session ∧
      ∀ earlier event later, events = earlier ++ event :: later →
        Follows settings earlier event.session := by
  intro start events
  refine ⟨map_step_history _ _ _, map_result_history start steps,
    follows_history settings tree steps, ?_⟩
  intro earlier event later split
  obtain ⟨stepsBefore, rfl, reached⟩ := exists_steps_of_history_eq start split
  rw [reached]
  exact follows_history settings tree stepsBefore

end Acceptor.Session
