import Mathlib.Data.List.Count
import Acceptor.Proofs.Automaton.Words
import Acceptor.Proofs.Definition.Descendants
import Acceptor.Proofs.Definition.Orderly

/-!
Warnings of unreachable states are given for just the states that no line makes an automaton
visit.
-/

namespace Acceptor

namespace Draft

variable {draft : Draft} {automaton : Automaton} {state : String}

/-- Chains of rules lead where words lead. -/
theorem Describes.leads_iff (describes : draft.Describes automaton) :
    Leads draft.rules automaton.start state ↔
      ∃ word, Automaton.Leads automaton automaton.start word state := by
  constructor
  · intro leads
    induction leads with
    | here => exact ⟨[], .here⟩
    | @step source rule _ isRule same inductionHypothesis =>
        obtain ⟨word, before⟩ := inductionHypothesis
        obtain ⟨symbol, text⟩ := describes.single rule isRule
        have moved : automaton.next? source symbol = some rule.target :=
          (describes.next?_eq_some_iff source symbol rule.target).mpr
            ⟨rule, isRule, same, text, rfl⟩
        exact ⟨word ++ [symbol], before.append_singleton moved⟩
  · rintro ⟨word, leads⟩
    have onwards : ∀ {first last : String} {word : List Char},
        Automaton.Leads automaton first word last →
          Leads draft.rules automaton.start first → Leads draft.rules automaton.start last := by
      intro first last word leads
      induction leads with
      | here => exact id
      | @step source next last symbol _ moved _ inductionHypothesis =>
          intro before
          apply inductionHypothesis
          obtain ⟨rule, isRule, same, _, rfl⟩ :=
            (describes.next?_eq_some_iff source symbol next).mp moved
          exact .step before isRule same
    exact onwards leads .here

theorem Describes.mem_unreached_iff (describes : draft.Describes automaton) :
    state ∈ draft.unreached ↔ state ∈ automaton.states ∧
      ¬ ∃ word, Automaton.Leads automaton automaton.start word state := by
  rw [Draft.mem_unreached_iff describes.start_eq, describes.leads_iff,
    describes.mem_states_iff]

end Draft

def Automaton.Visits (automaton : Automaton) (state : String) : Prop :=
  ∃ line, state ∈ (automaton.simulate line).trace

theorem Automaton.visits_iff {automaton : Automaton} {state : String} :
    automaton.Visits state ↔ ∃ word, Leads automaton automaton.start word state := by
  constructor
  · rintro ⟨line, inTrace⟩
    exact exists_leads_of_mem_trace inTrace
  · rintro ⟨word, leads⟩
    exact ⟨String.ofList word, List.mem_of_getLast? (simulate_of_leads leads).2⟩

/-- A state that is visited at all is the final state of a short line. -/
theorem Automaton.Visits.exists_short_line {automaton : Automaton} {state : String}
    (visits : automaton.Visits state) :
    ∃ line : String, line.length ≤ automaton.states.length - 1 ∧
      (automaton.simulate line).fault? = none ∧
        (automaton.simulate line).final? = some state := by
  obtain ⟨word, leads⟩ := visits_iff.mp visits
  obtain ⟨short, shortLeads, bound⟩ := exists_short_leads automaton.start_mem leads
  rw [← String.length_ofList] at bound
  exact ⟨String.ofList short, bound, simulate_of_leads shortLeads⟩

/-- The warnings of unreachable states are right, and in order. -/
structure Loaded.WarnsOfUnreachable (loaded : Loaded) : Prop where
  mem_warnings_iff : ∀ state ∈ loaded.automaton.states,
    Issue.unreachable state ∈ loaded.warnings ↔
      ∀ line, state ∉ (loaded.automaton.simulate line).trace
  count_eq_one : ∀ state, Issue.unreachable state ∈ loaded.warnings →
    loaded.warnings.count (.unreachable state) = 1
  exists_short_line : ∀ state ∈ loaded.automaton.states,
    Issue.unreachable state ∉ loaded.warnings →
      ∃ line : String, line.length ≤ loaded.automaton.states.length - 1 ∧
        (loaded.automaton.simulate line).fault? = none ∧
          (loaded.automaton.simulate line).final? = some state
  ordered : ∃ (missing : List (String × String)) (unreached : List String),
    loaded.warnings = missing.map (fun (state, symbol) => Issue.missing state symbol) ++
      unreached.map Issue.unreachable ∧ unreached.Sublist loaded.automaton.states

theorem Draft.Describes.warnsOfUnreachable {draft : Draft} {loaded : Loaded}
    (describes : draft.Describes loaded.automaton) (distinct : draft.states.Nodup)
    (warnings : loaded.warnings =
      draft.missingIssues ++ draft.unreached.map Issue.unreachable) :
    loaded.WarnsOfUnreachable := by
  -- The warnings of missing transitions, which come first, are about no state alone.
  have otherKind (state : String) : Issue.unreachable state ∉ draft.missingIssues := by
    intro membership
    obtain ⟨_, _, impossible⟩ := List.mem_map.mp membership
    contradiction
  have injective : Function.Injective Issue.unreachable := fun _ _ => Issue.unreachable.inj
  have warned (state : String) :
      Issue.unreachable state ∈ loaded.warnings ↔ state ∈ draft.unreached := by
    rw [warnings, List.mem_append, List.mem_map_of_injective injective]
    exact or_iff_right (otherKind state)
  have unvisited (state : String) (known : state ∈ loaded.automaton.states) :
      Issue.unreachable state ∈ loaded.warnings ↔ ¬ loaded.automaton.Visits state := by
    rw [warned, describes.mem_unreached_iff, Automaton.visits_iff]
    exact and_iff_right known
  have unreachedInOrder : draft.unreached.Sublist loaded.automaton.states := by
    rw [← describes.states_eq, eraseDups_eq_self distinct]
    exact List.filter_sublist
  constructor
  · intro state known
    rw [unvisited state known]
    exact not_exists
  · intro state isWarned
    have distinctUnreached : draft.unreached.Nodup := distinct.sublist List.filter_sublist
    rw [warnings, List.count_append, List.count_eq_zero_of_not_mem (otherKind state),
      List.count_map_of_injective _ _ injective, Nat.zero_add]
    exact List.count_eq_one_of_mem distinctUnreached ((warned state).mp isWarned)
  · intro state known notWarned
    rw [unvisited state known] at notWarned
    exact (not_not.mp notWarned).exists_short_line
  · exact ⟨draft.missing, draft.unreached, warnings, unreachedInOrder⟩

namespace Definition

/-- A state is warned of exactly if no line whatever makes the automaton visit it, and each
state that is not warned of is the final state of a short line. -/
theorem warnsOfUnreachable_of_loadBy {descendants : Digraph → String → List String}
    (documented : Digraph.AreDescendants descendants) {marker : CommentMarker}
    {policy : Policy} (reports : policy.reportUnreachable = true) {text : String}
    {loaded : Loaded} (accepted : loadBy descendants marker policy text = .ok loaded) :
    loaded.WarnsOfUnreachable := by
  rw [loadBy_eq_load documented, load] at accepted
  split at accepted
  · contradiction
  next draft read =>
    obtain ⟨describes, warnings⟩ := describes_of_loadDraft accepted
    rw [Draft.warnings, if_pos reports] at warnings
    exact describes.warnsOfUnreachable (Draft.orderly_of_ofText read).states_nodup warnings

/-- A definition with a state that rules lead out of but not to. -/
def strandedText : String :=
  "states: s, t, lost\nalphabet: a\nstart: s\naccept: t\ns, a -> t\nlost, a -> t"

theorem not_visits_lost_of_strandedText :
    Digraph.AreDescendants Digraph.spreadDescendants ∧
      (default : Policy).reportUnreachable = true ∧
        ∃ loaded, loadBy Digraph.spreadDescendants default default strandedText = .ok loaded ∧
          loaded.warnings = [.missing "t" "a", .unreachable "lost"] ∧
            ∀ line, "lost" ∉ (loaded.automaton.simulate line).trace := by
  have outcome :
      (loadBy Digraph.spreadDescendants default default strandedText).toOption.map
        (fun loaded => (loaded.automaton.states, loaded.warnings)) =
          some (["s", "t", "lost"], [.missing "t" "a", .unreachable "lost"]) := by decide
  cases accepted : loadBy Digraph.spreadDescendants default default strandedText with
  | error fault =>
      rw [accepted] at outcome
      contradiction
  | ok loaded =>
      rw [accepted] at outcome
      obtain ⟨states, warnings⟩ := Prod.mk.inj (Option.some.inj outcome)
      have warnsOf := warnsOfUnreachable_of_loadBy Digraph.areDescendants_spreadDescendants
        rfl accepted
      refine ⟨Digraph.areDescendants_spreadDescendants, rfl, loaded, rfl, warnings, ?_⟩
      apply (warnsOf.mem_warnings_iff "lost" (by simp [states])).mp
      simp [warnings]

end Definition

end Acceptor
