import Acceptor.Proofs.Automaton.Missing
import Acceptor.Proofs.Automaton.Stops
import Acceptor.Proofs.Definition.Unreachable

/-!
The warnings of a definition foretell where the runs of its automaton get stuck.

Missing transitions are found three times over: among the rules of a draft, in the table and
by a run.  All three find the same pairs, and the first two find them in the same order.
-/

namespace Acceptor

/-! ## Rules and cells -/

namespace Draft

variable {draft : Draft} {automaton : Automaton} {state : String} {symbol : Char}

theorem Describes.next?_eq_none_iff (describes : draft.Describes automaton) :
    automaton.next? state symbol = none ↔
      (state, String.singleton symbol) ∉ draft.rules.map Rule.key := by
  rw [Option.eq_none_iff_forall_ne_some, List.mem_map]
  constructor
  · rintro undefined ⟨rule, isRule, key⟩
    obtain ⟨source, text⟩ := Prod.mk.inj key
    apply undefined rule.target
    exact (describes.next?_eq_some_iff _ _ _).mpr ⟨rule, isRule, source, text, rfl⟩
  · intro absent target defined
    obtain ⟨rule, isRule, source, text, _⟩ :=
      (describes.next?_eq_some_iff _ _ _).mp defined
    exact absent ⟨rule, isRule, Prod.ext source text⟩

/-- The rules leave out just what the table leaves out. -/
theorem Describes.missing_eq (describes : draft.Describes automaton) (orderly : draft.Orderly) :
    draft.missing =
      automaton.missing.map fun (state, symbol) => (state, String.singleton symbol) := by
  have states := describes.states_eq
  have alphabet := describes.alphabet_eq
  rw [eraseDups_eq_self orderly.states_nodup] at states
  rw [eraseDups_eq_self orderly.alphabet_nodup] at alphabet
  rw [missing, states, alphabet, Automaton.missing_eq, List.map_flatMap]
  congr 1
  funext state
  rw [List.map_map, List.filter_map, List.map_map]
  congr 1
  apply List.filter_congr
  intro symbol _
  simp only [Function.comp_apply, decide_eq_decide]
  exact describes.next?_eq_none_iff.symm

end Draft

/-! ## Warnings -/

namespace Draft

variable {draft : Draft} {policy : Policy} {state symbol : String}

theorem missing_mem_warnings_iff :
    Issue.missing state symbol ∈ draft.warnings policy ↔ (state, symbol) ∈ draft.missing := by
  unfold warnings missingIssues
  split <;> simp

theorem unreachable_mem_warnings_iff (reports : policy.reportUnreachable = true) :
    Issue.unreachable state ∈ draft.warnings policy ↔ state ∈ draft.unreached := by
  unfold warnings missingIssues
  simp [reports]

theorem filter_incomplete_warnings :
    (draft.warnings policy).filter (fun issue => issue.kind = .incomplete) =
      draft.missingIssues := by
  unfold warnings
  split
  · exact filter_incomplete_append draft.unreached
  · exact filter_incomplete_append []

end Draft

namespace Loaded

/-- The states and symbols of the warnings of missing transitions, in order. -/
def gaps (loaded : Loaded) : List (Option String × Option String) :=
  (loaded.warnings.filter fun issue => issue.kind = .incomplete).map fun issue =>
    (issue.state?, issue.symbol?)

/-- Warnings that were given under a policy foretell where runs get stuck. -/
structure ForetellsDeadEnds (policy : Policy) (loaded : Loaded) : Prop where
  stopsAt_iff : policy.reportUnreachable = true → ∀ state symbol,
    loaded.automaton.StopsAt state symbol ↔
      .missing state symbol ∈ loaded.warnings ∧ .unreachable state ∉ loaded.warnings
  gaps_eq : loaded.gaps = loaded.automaton.missing.map fun (state, symbol) =>
    (some state, some (String.singleton symbol))
  gaps_eq_nil_iff : loaded.gaps = [] ↔ loaded.automaton.isComplete = true
  kind_ne_of_strict : policy.strict = true → ∀ line fault,
    (loaded.automaton.simulate line).fault? = some fault → fault.kind ≠ .noTransition

end Loaded

namespace Draft

variable {draft : Draft} {policy : Policy}

/-- A run gets stuck just where a transition is missing that it can be led to. -/
theorem Describes.stopsAt_iff {automaton : Automaton} (describes : draft.Describes automaton)
    (orderly : draft.Orderly) {state text : String} :
    automaton.StopsAt state text ↔ (state, text) ∈ draft.missing ∧ state ∉ draft.unreached := by
  rw [Automaton.stopsAt_iff, describes.missing_eq orderly, describes.mem_unreached_iff,
    List.mem_map]
  constructor
  · rintro ⟨symbol, own, rfl, stuck, word, leads⟩
    have known := leads.mem_states automaton.start_mem
    refine ⟨⟨(state, symbol), ?_, rfl⟩, fun unreached => unreached.2 ⟨word, leads⟩⟩
    exact Automaton.mem_missing_iff.mpr ⟨known, own, stuck⟩
  · rintro ⟨⟨⟨source, symbol⟩, isMissing, equality⟩, reached⟩
    cases equality
    obtain ⟨known, own, stuck⟩ := Automaton.mem_missing_iff.mp isMissing
    refine ⟨symbol, own, rfl, stuck, ?_⟩
    by_contra unvisited
    exact reached ⟨known, unvisited⟩

theorem Describes.foretellsDeadEnds {loaded : Loaded}
    (describes : draft.Describes loaded.automaton) (orderly : draft.Orderly)
    (warnings : loaded.warnings = draft.warnings policy)
    (complete : policy.strict = true → draft.missing = []) :
    loaded.ForetellsDeadEnds policy := by
  have gaps : loaded.gaps = draft.missing.map fun cell => (some cell.1, some cell.2) := by
    rw [Loaded.gaps, warnings, filter_incomplete_warnings, missingIssues, List.map_map]
    rfl
  have gaps_eq : loaded.gaps = loaded.automaton.missing.map fun (state, symbol) =>
      (some state, some (String.singleton symbol)) := by
    rw [gaps, describes.missing_eq orderly, List.map_map]
    rfl
  constructor
  · intro reports state symbol
    rw [warnings, missing_mem_warnings_iff, unreachable_mem_warnings_iff reports]
    exact describes.stopsAt_iff orderly
  · exact gaps_eq
  · rw [gaps_eq, Automaton.isComplete_eq_true_iff, List.map_eq_nil_iff]
  · intro strict line fault stopped kind
    obtain ⟨state, _, stopsAt⟩ := Automaton.exists_stopsAt_of_fault? stopped kind
    have isMissing := ((describes.stopsAt_iff orderly).mp stopsAt).1
    rw [complete strict] at isMissing
    contradiction

end Draft

namespace Definition

/-- Some line gets stuck at a state on a symbol exactly if the pair is warned of and the state
is not said to be unreachable; the pairs warned of are those that the table leaves empty; and
nothing gets stuck that is loaded under a strict policy. -/
theorem foretellsDeadEnds_of_loadBy {descendants : Digraph → String → List String}
    (documented : Digraph.AreDescendants descendants) {marker : CommentMarker}
    {policy : Policy} {text : String} {loaded : Loaded}
    (accepted : loadBy descendants marker policy text = .ok loaded) :
    loaded.ForetellsDeadEnds policy := by
  rw [loadBy_eq_load documented, load] at accepted
  split at accepted
  · contradiction
  next draft read =>
    obtain ⟨describes, warnings⟩ := describes_of_loadDraft accepted
    obtain ⟨_, complete, _⟩ := Draft.validate_eq_ok_iff.mp (loadDraft_eq_ok_iff.mp accepted).1
    exact describes.foretellsDeadEnds (Draft.orderly_of_ofText read) warnings complete

def gappedText : String :=
  "a,b\n-,s,t,s\n+,t,s,\n,lost,s,"

def filledText : String :=
  "a\n-+,s,s"

theorem stopsAt_t_of_gappedText :
    Digraph.AreDescendants Digraph.spreadDescendants ∧
      (∃ loaded,
        loadBy Digraph.spreadDescendants default default gappedText = .ok loaded ∧
          loaded.gaps = [(some "t", some "b"), (some "lost", some "b")] ∧
          loaded.automaton.StopsAt "t" "b" ∧ ¬ loaded.automaton.StopsAt "lost" "b") ∧
      ∃ loaded,
        loadBy Digraph.spreadDescendants default { strict := true } filledText = .ok loaded ∧
          ∀ line fault, (loaded.automaton.simulate line).fault? = some fault →
            fault.kind ≠ .noTransition := by
  have documented := Digraph.areDescendants_spreadDescendants
  refine ⟨documented, ?_, ?_⟩
  · have outcome :
        (loadBy Digraph.spreadDescendants default default gappedText).toOption.map
          Loaded.warnings =
            some [.missing "t" "b", .missing "lost" "b", .unreachable "lost"] := by
      decide +kernel
    cases accepted : loadBy Digraph.spreadDescendants default default gappedText with
    | error fault =>
        rw [accepted] at outcome
        contradiction
    | ok loaded =>
        rw [accepted] at outcome
        have warnings : loaded.warnings = _ := Option.some.inj outcome
        have foretells := foretellsDeadEnds_of_loadBy documented accepted
        refine ⟨loaded, rfl, ?_, ?_, ?_⟩
        · rw [Loaded.gaps, warnings]
          rfl
        · rw [foretells.stopsAt_iff rfl, warnings]
          decide
        · rw [foretells.stopsAt_iff rfl, warnings]
          decide
  · have outcome : (loadBy Digraph.spreadDescendants default { strict := true }
        filledText).toOption.isSome = true := by
      decide +kernel
    cases accepted : loadBy Digraph.spreadDescendants default { strict := true } filledText with
    | error fault =>
        rw [accepted] at outcome
        contradiction
    | ok loaded =>
        have foretells := foretellsDeadEnds_of_loadBy documented accepted
        exact ⟨loaded, rfl, foretells.kind_ne_of_strict rfl⟩

end Definition

end Acceptor
