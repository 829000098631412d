import Acceptor.Proofs.Batch.Returned
import Acceptor.Proofs.Definition.Unreachable
import Acceptor.Proofs.Report.Complete
import Mathlib.Algebra.BigOperators.Group.Finset.Basic
import Mathlib.Algebra.Ring.Int.Defs

/-!
How often states are visited.

Visits are counted trace after trace, and the first state that the automaton does not have ends the
count.  A run visits one state more than it reads symbols, and no state that is unreachable.
-/

namespace Acceptor

/-! ## Counting one visit after another -/

namespace Report

variable {states visited : List String} {state : String}

/-- As the states are distinct, a visit is counted in one place only. -/
theorem modify_map (distinct : states.Nodup) {place : Nat} (isPlace : states[place]? = some state)
    (count : String → Nat) :
    (states.map count).modify place (· + 1) =
      states.map fun other => count other + if state = other then 1 else 0 := by
  obtain ⟨inStates, _⟩ := List.getElem?_eq_some_iff.mp isPlace
  apply List.ext_getElem?
  intro index
  rw [List.getElem?_modify, List.getElem?_map, List.getElem?_map]
  cases isOther : states[index]? with
  | none => rfl
  | some other =>
      have here_iff : place = index ↔ state = other := by
        rw [← List.getElem?_inj inStates distinct, isPlace, isOther, Option.some.injEq]
      by_cases here : state = other
      · simp [here, here_iff]
      · simp [here, here_iff]

theorem countVisits_cons_of_mem {counts : List Nat} (own : state ∈ states) :
    ∃ place, states[place]? = some state ∧
      countVisits states counts (state :: visited) =
        countVisits states (counts.modify place (· + 1)) visited := by
  obtain ⟨place, isPlace⟩ := Option.isSome_iff_exists.mp (List.isSome_idxOf?.mpr own)
  obtain ⟨inStates, same, _⟩ := List.idxOf?_eq_some_iff.mp isPlace
  refine ⟨place, List.getElem?_eq_some_iff.mpr ⟨inStates, same⟩, ?_⟩
  rw [countVisits, isPlace]

theorem countVisits_eq_ok (distinct : states.Nodup) (own : ∀ state ∈ visited, state ∈ states)
    (count : String → Nat) :
    countVisits states (states.map count) visited =
      .ok (states.map fun state => count state + visited.count state) := by
  -- A visit only changes the function that gives the counts so far.
  induction visited generalizing count with
  | nil => rfl
  | cons first rest inductionHypothesis =>
      rw [List.forall_mem_cons] at own
      obtain ⟨place, isPlace, step⟩ := countVisits_cons_of_mem own.1
      rw [step, modify_map distinct isPlace, inductionHypothesis own.2]
      apply congrArg Except.ok
      apply List.map_congr_left
      intro state _
      rw [List.count_cons, Nat.add_assoc, Nat.add_comm (rest.count state)]
      simp only [beq_iff_eq]

theorem countVisits_eq_error {before after : List String} {counts : List Nat}
    (own : ∀ state ∈ before, state ∈ states) (foreign : state ∉ states) :
    countVisits states counts (before ++ state :: after) = .error ⟨state⟩ := by
  induction before generalizing counts with
  | nil => rw [List.nil_append, countVisits, List.idxOf?_eq_none_iff.mpr foreign]
  | cons first rest inductionHypothesis =>
      rw [List.forall_mem_cons] at own
      obtain ⟨place, _, step⟩ := countVisits_cons_of_mem own.1
      rw [List.cons_append, step]
      exact inductionHypothesis own.2

theorem sum_map_count (distinct : states.Nodup) (own : ∀ state ∈ visited, state ∈ states) :
    (states.map visited.count).sum = visited.length := by
  have inSet : ∀ state ∈ (visited : Multiset String), state ∈ states.toFinset := by
    simpa using own
  rw [← List.sum_toFinset _ distinct]
  simpa only [Multiset.coe_count, Multiset.coe_card] using Multiset.sum_count_eq_card inSet

/-! ## Reports -/

variable {report : Report} {automaton : Automaton}

/-- Verdict after verdict, and in the order of the visits, the first state that the automaton does
not have. -/
inductive IsFirstForeign (report : Report) (automaton : Automaton) : String → Prop where
  | intro {earlier later : List Verdict} {verdict : Verdict} {before after : List String}
      {state : String} :
      report.given = earlier ++ verdict :: later →
      verdict.trace = before ++ state :: after →
      (∀ other ∈ earlier, ∀ visited ∈ other.trace, visited ∈ automaton.states) →
      (∀ visited ∈ before, visited ∈ automaton.states) →
      state ∉ automaton.states →
      IsFirstForeign report automaton state

theorem exists_first {Item : Type} {holds : Item → Bool} {items : List Item}
    (some : ∃ item ∈ items, holds item = true) :
    ∃ before item after, items = before ++ item :: after ∧ holds item = true ∧
      ∀ other ∈ before, holds other = false := by
  obtain ⟨item, found⟩ := Option.isSome_iff_exists.mp (List.find?_isSome.mpr some)
  obtain ⟨isIt, before, after, shape, others⟩ := List.find?_eq_some_iff_append.mp found
  refine ⟨before, item, after, shape, isIt, ?_⟩
  simpa using others

theorem exists_isFirstForeign
    (foreign : ∃ verdict ∈ report.given, ∃ state ∈ verdict.trace, state ∉ automaton.states) :
    ∃ state, IsFirstForeign report automaton state := by
  -- The first verdict with a foreign state, and then the first such state of its trace.
  let isForeign : String → Bool := fun state => state ∉ automaton.states
  have someVerdict : ∃ verdict ∈ report.given, verdict.trace.any isForeign = true := by
    simpa [isForeign] using foreign
  obtain ⟨earlier, verdict, later, shape, foreignIn, ownBefore⟩ := exists_first someVerdict
  obtain ⟨before, state, after, traceShape, isIt, ownStates⟩ :=
    exists_first (List.any_eq_true.mp foreignIn)
  refine ⟨state, .intro shape traceShape ?_ ?_ (of_decide_eq_true isIt)⟩
  · simpa [isForeign] using ownBefore
  · simpa [isForeign] using ownStates

theorem IsFirstForeign.visitCounts_eq (first : IsFirstForeign report automaton state) :
    report.visitCounts automaton = .error ⟨state⟩ := by
  cases first with
  | @intro earlier later verdict before after _ given trace ownEarlier ownBefore foreign =>
      have shape : report.visited = (earlier.flatMap Verdict.trace ++ before) ++
          state :: (after ++ later.flatMap Verdict.trace) := by
        simp [visited, given, trace]
      rw [visitCounts, shape]
      apply countVisits_eq_error _ foreign
      rw [List.forall_mem_append, List.forall_mem_flatMap]
      exact ⟨ownEarlier, ownBefore⟩

theorem visitCounts_eq_ok (own : ∀ state ∈ report.visited, state ∈ automaton.states) :
    report.visitCounts automaton = .ok (automaton.states.map report.visited.count) := by
  rw [visitCounts, countVisits_eq_ok automaton.states_nodup own]
  simp only [Nat.zero_add]

/-- The visits to all states are counted, unless one of them is to no state of the automaton. -/
structure CountsVisits (report : Report) (automaton : Automaton) : Prop where
  fails_iff : (∃ foreign, report.visitCounts automaton = .error foreign) ↔
    ∃ verdict ∈ report.given, ∃ state ∈ verdict.trace, state ∉ automaton.states
  names_iff : ∀ state, report.visitCounts automaton = .error ⟨state⟩ ↔
    IsFirstForeign report automaton state
  counts_eq : ∀ counts, report.visitCounts automaton = .ok counts →
    counts = automaton.states.map fun state =>
      (report.given.map fun verdict => verdict.trace.count state).sum
  sum_eq : ∀ counts, report.visitCounts automaton = .ok counts →
    counts.sum = (report.given.map fun verdict => verdict.trace.length).sum

theorem countsVisits_of_foreign (first : IsFirstForeign report automaton state) :
    CountsVisits report automaton := by
  have failed := first.visitCounts_eq
  constructor
  · apply iff_of_true ⟨_, failed⟩
    cases first with
    | @intro earlier later verdict before after _ given trace _ _ foreign =>
        have isGiven : verdict ∈ report.given := by simp [given]
        have visited : state ∈ verdict.trace := by simp [trace]
        exact ⟨verdict, isGiven, state, visited, foreign⟩
  · intro other
    constructor
    · intro otherFailed
      cases failed.symm.trans otherFailed
      exact first
    · exact IsFirstForeign.visitCounts_eq
  · intro counts counted
    cases failed.symm.trans counted
  · intro counts counted
    cases failed.symm.trans counted

theorem countsVisits_of_own (own : ∀ state ∈ report.visited, state ∈ automaton.states) :
    CountsVisits report automaton := by
  have counted := visitCounts_eq_ok own
  constructor
  · rw [counted]
    apply iff_of_false nofun
    rintro ⟨verdict, isGiven, state, visited, foreign⟩
    exact foreign (own state (List.mem_flatMap.mpr ⟨verdict, isGiven, visited⟩))
  · intro state
    constructor
    · intro failed
      cases counted.symm.trans failed
    · intro first
      cases counted.symm.trans first.visitCounts_eq
  · intro counts isCounts
    cases counted.symm.trans isCounts
    apply List.map_congr_left
    intro state _
    exact List.count_flatMap
  · intro counts isCounts
    cases counted.symm.trans isCounts
    rw [sum_map_count automaton.states_nodup own]
    exact List.length_flatMap

theorem countsVisits (report : Report) (automaton : Automaton) :
    CountsVisits report automaton := by
  by_cases foreign : ∃ verdict ∈ report.given, ∃ state ∈ verdict.trace, state ∉ automaton.states
  · obtain ⟨state, first⟩ := exists_isFirstForeign foreign
    exact countsVisits_of_foreign first
  · push Not at foreign
    exact countsVisits_of_own (List.forall_mem_flatMap.mpr foreign)

end Report

/-! ## Symbols that are read -/

def Verdict.consumed (line : String) (verdict : Verdict) : Int :=
  match verdict.fault? with
  | none => line.length
  | some fault => fault.position

namespace Automaton

variable {automaton : Automaton}

theorem length_trace_simulate (automaton : Automaton) (line : String) :
    ((automaton.simulate line).trace.length : Int) =
      (automaton.simulate line).consumed line + 1 := by
  obtain ⟨length, longest, isVerdict, _⟩ := automaton.exists_isVerdict_simulate line
  rw [isVerdict.trace_length, Int.natCast_succ]
  apply congrArg (· + 1)
  rcases Nat.lt_or_eq_of_le longest.1.1 with early | finished
  · obtain ⟨_, last, symbol, _, _, stopped⟩ := isVerdict.stopped early
    rw [Verdict.consumed, stopped]
    dsimp only
    rw [position_stopFault, Nat.zero_add]
  · rw [Verdict.consumed, (isVerdict.finished finished).1]
    dsimp only
    rw [finished, String.length_toList]

theorem start_mem_trace_simulate (automaton : Automaton) (line : String) :
    automaton.start ∈ (automaton.simulate line).trace := by
  obtain ⟨length, _, isVerdict, _⟩ := automaton.exists_isVerdict_simulate line
  exact List.mem_of_head? isVerdict.trace_head

end Automaton

theorem Draft.not_mem_trace_of_warned {descendants : Digraph → String → List String}
    (documented : Digraph.AreDescendants descendants) {policy : Policy} {draft : Draft}
    {warnings : List Issue} (validated : draft.validateBy descendants policy = .ok warnings)
    {automaton : Automaton} (built : draft.build = .ok automaton) {state : String}
    (warned : Issue.unreachable state ∈ warnings) :
    state ∈ automaton.states ∧ ∀ line, state ∉ (automaton.simulate line).trace := by
  rw [validateBy_eq_validate documented] at validated
  obtain ⟨sound, _, rfl⟩ := validate_eq_ok_iff.mp validated
  have describes := sound.describes_of_build built
  have unreached : policy.reportUnreachable = true ∧ state ∈ draft.unreached := by
    simpa [Draft.warnings, missingIssues] using warned
  rw [describes.mem_unreached_iff, ← Automaton.visits_iff] at unreached
  exact ⟨unreached.2.1, not_exists.mp unreached.2.2⟩

namespace Batch

def consumed (batch : Batch) (report : Report) : Int :=
  ((batch.lines.zip report.verdicts).map fun (line, verdict?) =>
    (verdict?.map (Verdict.consumed line)).getD 0).sum

variable {automaton : Automaton} {workers : Workers} {cancelAfter? : Option Nat} {batch : Batch}
  {report : Report} {lines : List String} {verdicts : List (Option Verdict)}

/-- A run visits the start and one state more for each symbol. -/
theorem sum_length_trace (outcomes : List.Forall₂ (IsOutcome automaton) lines verdicts) :
    ((((verdicts.filterMap id).map fun verdict => verdict.trace.length).sum : Nat) : Int) =
      (verdicts.filterMap id).length +
        ((lines.zip verdicts).map fun (line, verdict?) =>
          (verdict?.map (Verdict.consumed line)).getD 0).sum := by
  induction outcomes with
  | nil => rfl
  | @cons line _ _ _ first _ inductionHypothesis =>
      cases first with
      | left => simpa using inductionHypothesis
      | run =>
          have visits := automaton.length_trace_simulate line
          simp only [List.filterMap_cons, id, List.map_cons, List.sum_cons, List.length_cons,
            List.zip_cons_cons, Option.map_some, Option.getD_some] at inductionHypothesis ⊢
          omega

/-- Each step of the runs is counted where it leads to. -/
structure CountsSteps (automaton : Automaton) (batch : Batch) (report : Report)
    (counts : List Nat) : Prop where
  visitCounts_eq : report.visitCounts automaton = .ok counts
  sum_eq : (counts.sum : Int) = report.given.length + batch.consumed report
  start_le : ∃ count, counts[automaton.states.idxOf automaton.start]? = some count ∧
    report.given.length ≤ count
  unreachable_eq : ∀ descendants, Digraph.AreDescendants descendants →
    ∀ policy draft warnings, Draft.validateBy descendants policy draft = .ok warnings →
      draft.build = .ok automaton →
        ∀ state, Issue.unreachable state ∈ warnings →
          counts[automaton.states.idxOf state]? = some 0

theorem exists_countsSteps (returns : Returns automaton workers cancelAfter? batch report) :
    ∃ counts, CountsSteps automaton batch report counts := by
  have own : ∀ state ∈ report.visited, state ∈ automaton.states := by
    rw [Report.visited, List.forall_mem_flatMap]
    intro verdict isGiven state visited
    obtain ⟨line, _, rfl⟩ := returns.exists_line_of_given isGiven
    exact Automaton.mem_states_of_mem_trace visited
  have counted := Report.visitCounts_eq_ok own
  have entry {state : String} (isState : state ∈ automaton.states) :
      (automaton.states.map report.visited.count)[automaton.states.idxOf state]? =
        some (report.visited.count state) := by
    rw [List.getElem?_map, List.getElem?_idxOf isState]
    rfl
  refine ⟨_, counted, ?_, ?_, ?_⟩
  · rw [(Report.countsVisits report automaton).sum_eq _ counted]
    exact sum_length_trace returns.comesTo.forall₂_isOutcome
  · refine ⟨_, entry automaton.start_mem, ?_⟩
    have once : ∀ count ∈ report.given.map fun verdict => verdict.trace.count automaton.start,
        1 ≤ count := by
      rw [List.forall_mem_map]
      intro verdict isGiven
      obtain ⟨line, _, rfl⟩ := returns.exists_line_of_given isGiven
      exact List.one_le_count_iff.mpr (automaton.start_mem_trace_simulate line)
    rw [Report.visited, List.count_flatMap]
    exact (List.length_map _).symm.trans_le (List.length_le_sum_of_one_le _ once)
  · intro descendants documented policy draft warnings validated built state warned
    obtain ⟨isState, unvisited⟩ :=
      Draft.not_mem_trace_of_warned documented validated built warned
    rw [entry isState, Option.some.injEq, List.count_eq_zero, Report.visited, List.mem_flatMap]
    rintro ⟨verdict, isGiven, visited⟩
    obtain ⟨line, _, rfl⟩ := returns.exists_line_of_given isGiven
    exact unvisited line visited

/-- Visits to states of the automaton are all counted, others are named, and what a batch comes
back with accounts for each symbol that was read. -/
theorem countsVisits_and_exists_countsSteps :
    (∀ (report : Report) (automaton : Automaton), report.CountsVisits automaton) ∧
      ∀ (automaton : Automaton) (workers : Workers) (cancelAfter? : Option Nat) (batch : Batch)
        (report : Report), batch.Returns automaton workers cancelAfter? report →
          ∃ counts, CountsSteps automaton batch report counts := by
  constructor
  · intro report automaton
    exact Report.countsVisits report automaton
  · intro automaton workers cancelAfter? batch report returns
    exact exists_countsSteps returns

/-- A definition with a state that rules lead out of but not to. -/
def strandedDraft : Draft where
  states := ["s", "t", "lost"]
  alphabet := ["a"]
  start? := some "s"
  accepting := ["t"]
  rules := [
    { source := "s", symbol := "a", target := "t" },
    { source := "lost", symbol := "a", target := "t" }]

/-- A report with two states that are none of the automaton `unary`. -/
def strayReport : Report where
  filename := "stray.in"
  verdicts := [none, some { accepted := true, trace := ["s", "x", "s", "y"] }]
  cancelled := true
  complete_or_cancelled := by decide

theorem isFirstForeign_strayReport :
    Report.IsFirstForeign strayReport unary "x" ∧
      ∃ automaton counts, strandedDraft.build = .ok automaton ∧
        CountsSteps automaton mixedBatch (mixedBatch.run automaton { count := 4 } none) counts ∧
        counts[automaton.states.idxOf "lost"]? = some 0 := by
  obtain ⟨ofAny, ofReturned⟩ := countsVisits_and_exists_countsSteps
  have named : strayReport.visitCounts unary = .error ⟨"x"⟩ := rfl
  refine ⟨((ofAny strayReport unary).names_iff "x").mp named, ?_⟩
  have validated : strandedDraft.validateBy Digraph.spreadDescendants default =
      .ok [.missing "t" "a", .unreachable "lost"] := by decide
  have isBuilt : strandedDraft.build.toOption.isSome = true := by decide
  cases built : strandedDraft.build with
  | error fault =>
      rw [built] at isBuilt
      contradiction
  | ok automaton =>
      obtain ⟨counts, countsSteps⟩ := ofReturned automaton { count := 4 } none mixedBatch _
        (returns_run _ _ _ _)
      refine ⟨automaton, counts, rfl, countsSteps, ?_⟩
      apply countsSteps.unreachable_eq _ Digraph.areDescendants_spreadDescendants _ _ _ validated
        built
      simp

end Batch

end Acceptor
