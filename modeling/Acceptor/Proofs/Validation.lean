import Acceptor.Validation

/-!
What the judgement of a draft means.

A draft passes all checks exactly if it is `Sound`, which is said of its lists alone, without
the order of the checks.
-/

namespace Acceptor

def Deterministic (rules : List Rule) : Prop :=
  ∀ rule ∈ rules, ∀ other ∈ rules, rule.key = other.key → rule.target = other.target

theorem deterministic_cons_iff {rule : Rule} {rest : List Rule} :
    Deterministic (rule :: rest) ↔
      (∀ other ∈ rest, rule.key = other.key → rule.target = other.target) ∧
        Deterministic rest := by
  simp only [Deterministic, List.forall_mem_cons]
  constructor
  · rintro ⟨⟨_, fromRule⟩, fromRest⟩
    exact ⟨fromRule, fun left inLeft => (fromRest left inLeft).2⟩
  · rintro ⟨fromRule, deterministic⟩
    refine ⟨⟨fun _ => trivial, fromRule⟩, fun left inLeft => ⟨?_, deterministic left inLeft⟩⟩
    intro sameKey
    exact (fromRule left inLeft sameKey.symm).symm

/-- A draft that describes an automaton, but for the length of its symbols. -/
structure Draft.Sound (draft : Draft) : Prop where
  states_ne_nil : draft.states ≠ []
  alphabet_ne_nil : draft.alphabet ≠ []
  start_mem : ∃ start ∈ draft.states, draft.start? = some start
  accepting_subset : ∀ state ∈ draft.accepting, state ∈ draft.states
  source_mem : ∀ rule ∈ draft.rules, rule.source ∈ draft.states
  symbol_mem : ∀ rule ∈ draft.rules, rule.symbol ∈ draft.alphabet
  target_mem : ∀ rule ∈ draft.rules, rule.target ∈ draft.states
  deterministic : Deterministic draft.rules

namespace Check

theorem startIssues_eq_nil_iff {draft : Draft} :
    startIssues draft = [] ↔ ∃ start ∈ draft.states, draft.start? = some start := by
  unfold startIssues
  cases draft.start? with
  | none => simp
  | some start =>
      by_cases declared : start ∈ draft.states <;> simp [declared]

theorem endpointIssues_eq_nil_iff {draft : Draft} {rule : Rule} :
    endpointIssues draft rule = [] ↔
      rule.source ∈ draft.states ∧ rule.symbol ∈ draft.alphabet ∧
        rule.target ∈ draft.states := by
  simp [endpointIssues, List.append_eq_nil_iff]

/-- What is asked of a rule by the rules before it, whose first targets are `seen`. -/
def FitsSeen (seen : OrderedMap (String × String) String) (rule : Rule) : Prop :=
  ∀ first, seen.get? rule.key = some first → first = rule.target

theorem fitsSeen_insert_iff {seen : OrderedMap (String × String) String} {rule other : Rule}
    (fresh : seen.get? rule.key = none) :
    FitsSeen (seen.insert rule.key rule.target) other ↔
      FitsSeen seen other ∧ (rule.key = other.key → rule.target = other.target) := by
  by_cases sameKey : rule.key = other.key
  · simp [FitsSeen, OrderedMap.get?_insert, ← sameKey, fresh]
  · simp [FitsSeen, OrderedMap.get?_insert, sameKey]

theorem conflicts_eq_nil_iff_of_seen {seen : OrderedMap (String × String) String}
    {rules : List Rule} :
    conflicts seen rules = [] ↔
      (∀ rule ∈ rules, FitsSeen seen rule) ∧ Deterministic rules := by
  induction rules generalizing seen with
  | nil => simp [conflicts, Deterministic]
  | cons rule rest inductionHypothesis =>
      rw [deterministic_cons_iff, List.forall_mem_cons]
      unfold conflicts
      cases found : seen.get? rule.key with
      | none =>
          have fits : FitsSeen seen rule := by
            intro first present
            rw [found] at present
            contradiction
          simp only [inductionHypothesis, fitsSeen_insert_iff found]
          exact ⟨fun ⟨agree, deterministic⟩ =>
              ⟨⟨fits, fun other membership => (agree other membership).1⟩,
                fun other membership => (agree other membership).2, deterministic⟩,
            fun ⟨⟨_, agree⟩, sameTarget, deterministic⟩ =>
              ⟨fun other membership => ⟨agree other membership, sameTarget other membership⟩,
                deterministic⟩⟩
      | some first =>
          by_cases same : first = rule.target
          · simp only [same, if_true, inductionHypothesis]
            have fits : FitsSeen seen rule := by
              intro value present
              rw [found] at present
              exact (Option.some.inj present).symm.trans same
            refine ⟨fun ⟨agree, deterministic⟩ => ⟨⟨fits, agree⟩, ?_, deterministic⟩,
              fun ⟨⟨_, agree⟩, _, deterministic⟩ => ⟨agree, deterministic⟩⟩
            intro other membership sameKey
            exact agree other membership rule.target (by rw [← sameKey, found, same])
          · simp only [same, if_false, reduceCtorEq, false_iff]
            rintro ⟨⟨fits, _⟩, _⟩
            exact same (fits first found)

theorem conflicts_eq_nil_iff {rules : List Rule} :
    conflicts .empty rules = [] ↔ Deterministic rules := by
  rw [conflicts_eq_nil_iff_of_seen]
  refine and_iff_right fun rule _ first present => ?_
  rw [OrderedMap.get?_empty] at present
  contradiction

end Check

namespace Draft

theorem failure?_eq_none_iff_forall {draft : Draft} :
    draft.failure? = none ↔ ∀ check : Check, check.issues draft = [] := by
  rw [failure?, List.find?_eq_none]
  constructor
  · intro passed check
    have listed : check ∈ Check.all := by cases check <;> decide
    simpa using passed _ (List.mem_map_of_mem listed)
  · intro clean found membership
    obtain ⟨check, _, rfl⟩ := List.mem_map.mp membership
    simp [clean check]

theorem failure?_eq_none_iff {draft : Draft} : draft.failure? = none ↔ draft.Sound := by
  rw [failure?_eq_none_iff_forall]
  constructor
  · intro clean
    have endpoints : ∀ rule ∈ draft.rules, rule.source ∈ draft.states ∧
        rule.symbol ∈ draft.alphabet ∧ rule.target ∈ draft.states := by
      intro rule membership
      exact Check.endpointIssues_eq_nil_iff.mp
        (List.flatMap_eq_nil_iff.mp (clean .endpoints) rule membership)
    exact {
      states_ne_nil := by simpa [Check.issues] using clean .states
      alphabet_ne_nil := by simpa [Check.issues] using clean .alphabet
      start_mem := Check.startIssues_eq_nil_iff.mp (clean .start)
      accepting_subset := by simpa [Check.issues] using clean .accepting
      source_mem := fun rule membership => (endpoints rule membership).1
      symbol_mem := fun rule membership => (endpoints rule membership).2.1
      target_mem := fun rule membership => (endpoints rule membership).2.2
      deterministic := Check.conflicts_eq_nil_iff.mp (clean .determinism) }
  · intro sound check
    cases check with
    | states => simpa [Check.issues] using sound.states_ne_nil
    | alphabet => simpa [Check.issues] using sound.alphabet_ne_nil
    | start => exact Check.startIssues_eq_nil_iff.mpr sound.start_mem
    | accepting => simpa [Check.issues] using sound.accepting_subset
    | endpoints =>
        refine List.flatMap_eq_nil_iff.mpr fun rule membership => ?_
        exact Check.endpointIssues_eq_nil_iff.mpr ⟨sound.source_mem rule membership,
          sound.symbol_mem rule membership, sound.target_mem rule membership⟩
    | determinism => exact Check.conflicts_eq_nil_iff.mpr sound.deterministic

def warnings (policy : Policy) (draft : Draft) : List Issue :=
  draft.missingIssues ++
    if policy.reportUnreachable then draft.unreached.map Issue.unreachable else []

theorem missingIssues_eq_nil_iff {draft : Draft} :
    draft.missingIssues = [] ↔ draft.missing = [] :=
  List.map_eq_nil_iff

theorem kind_of_mem_missingIssues {draft : Draft} {issue : Issue}
    (membership : issue ∈ draft.missingIssues) : issue.kind = .incomplete := by
  obtain ⟨_, _, rfl⟩ := List.mem_map.mp membership
  rfl

theorem kind_of_mem_map_unreachable {states : List String} {issue : Issue}
    (membership : issue ∈ states.map Issue.unreachable) : issue.kind = .unreachable := by
  obtain ⟨_, _, rfl⟩ := List.mem_map.mp membership
  rfl

theorem filter_incomplete_append {draft : Draft} (states : List String) :
    (draft.missingIssues ++ states.map Issue.unreachable).filter
      (fun issue => issue.kind = .incomplete) = draft.missingIssues := by
  have kept : ∀ issue ∈ draft.missingIssues, decide (issue.kind = .incomplete) = true :=
    fun issue membership => decide_eq_true (kind_of_mem_missingIssues membership)
  have dropped : ∀ issue ∈ states.map Issue.unreachable,
      ¬ decide (issue.kind = .incomplete) = true := by
    intro issue membership
    rw [kind_of_mem_map_unreachable membership]
    decide
  rw [List.filter_append, List.filter_eq_self.mpr kept, List.filter_eq_nil_iff.mpr dropped,
    List.append_nil]

theorem filter_ne_unreachable_append {draft : Draft} (states : List String) :
    (draft.missingIssues ++ states.map Issue.unreachable).filter
      (fun issue => issue.kind ≠ .unreachable) = draft.missingIssues := by
  have kept : ∀ issue ∈ draft.missingIssues, decide (issue.kind ≠ .unreachable) = true := by
    intro issue membership
    rw [kind_of_mem_missingIssues membership]
    decide
  have dropped : ∀ issue ∈ states.map Issue.unreachable,
      ¬ decide (issue.kind ≠ .unreachable) = true := by
    intro issue membership
    rw [kind_of_mem_map_unreachable membership]
    decide
  rw [List.filter_append, List.filter_eq_self.mpr kept, List.filter_eq_nil_iff.mpr dropped,
    List.append_nil]

theorem validate_eq_ok_iff {policy : Policy} {draft : Draft} {issues : List Issue} :
    draft.validate policy = .ok issues ↔
      draft.Sound ∧ (policy.strict = true → draft.missing = []) ∧
        issues = draft.warnings policy := by
  rw [← failure?_eq_none_iff]
  unfold validate
  cases failed : draft.failure? with
  | some found => simp
  | none =>
      by_cases refused : policy.strict = true ∧ draft.missing ≠ []
      · simp [refused]
      · have complete : policy.strict = true → draft.missing = [] := fun strict =>
          Decidable.not_not.mp fun incomplete => refused ⟨strict, incomplete⟩
        simp only [refused, if_false, Except.ok.injEq, true_and]
        exact ⟨fun equality => ⟨complete, equality.symm⟩, fun accepted => accepted.2.symm⟩

end Draft

end Acceptor
