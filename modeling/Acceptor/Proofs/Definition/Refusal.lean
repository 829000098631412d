import Acceptor.Proofs.Definition.Outcome

/-!
What is said of a definition that is refused.

A line that cannot be read is never found by a check, and each issue is put into some words.
-/

namespace Acceptor

namespace Check

variable {draft : Draft} {issue : Issue}

theorem kind_of_mem_conflicts {seen : OrderedMap (String × String) String} {rules : List Rule}
    (found : issue ∈ conflicts seen rules) : issue.kind = .nondeterministic := by
  induction rules generalizing seen with
  | nil => contradiction
  | cons rule rest inductionHypothesis =>
      unfold conflicts at found
      split at found
      · exact inductionHypothesis found
      · split at found
        · exact inductionHypothesis found
        · rcases List.mem_cons.mp found with rfl | later
          · rfl
          · exact inductionHypothesis later

theorem kind_of_mem_endpointIssues {rule : Rule} (found : issue ∈ endpointIssues draft rule) :
    issue.kind = .invalidEndpoint := by
  unfold endpointIssues at found
  rw [List.mem_append, List.mem_append] at found
  rcases found with (source | symbol) | target
  all_goals
    split at *
    · contradiction
    · cases List.mem_singleton.mp ‹_›
      rfl

theorem kind_of_mem_startIssues (found : issue ∈ startIssues draft) :
    issue.kind = .invalidStart := by
  unfold startIssues at found
  split at found
  · cases List.mem_singleton.mp found
    rfl
  · split at found
    · contradiction
    · cases List.mem_singleton.mp found
      rfl

def kind : Check → Issue.Kind
  | .states => .emptyStates
  | .alphabet => .emptyAlphabet
  | .start => .invalidStart
  | .accepting => .invalidAccepting
  | .endpoints => .invalidEndpoint
  | .determinism => .nondeterministic

theorem kind_of_mem_issues {check : Check} (found : issue ∈ check.issues draft) :
    issue.kind = check.kind := by
  cases check with
  | states =>
      obtain ⟨_, found⟩ := List.mem_ite_nil_right.mp found
      cases List.mem_singleton.mp found
      rfl
  | alphabet =>
      obtain ⟨_, found⟩ := List.mem_ite_nil_right.mp found
      cases List.mem_singleton.mp found
      rfl
  | start => exact kind_of_mem_startIssues found
  | accepting =>
      obtain ⟨state, _, rfl⟩ := List.mem_map.mp found
      rfl
  | endpoints =>
      obtain ⟨rule, _, found⟩ := List.mem_flatMap.mp found
      exact kind_of_mem_endpointIssues found
  | determinism => exact kind_of_mem_conflicts found

end Check

namespace Draft

/-- The errors of a draft belong to one family: that of the check that failed, or that of missing
transitions. -/
theorem exists_kind_of_validate_eq_error {policy : Policy} {draft : Draft} {issues : List Issue}
    (refused : draft.validate policy = .error issues) :
    ∃ kind, kind ≠ .malformedLine ∧ ∀ issue ∈ issues, issue.kind = kind := by
  unfold validate at refused
  split at refused
  next check found failed =>
    cases refused
    obtain ⟨_, _, same⟩ := List.mem_map.mp (List.mem_of_find?_eq_some failed)
    cases same
    refine ⟨check.kind, ?_, fun issue => Check.kind_of_mem_issues⟩
    cases check <;> decide
  next passed =>
    split at refused
    · cases refused
      refine ⟨.incomplete, by decide, ?_⟩
      intro issue found
      obtain ⟨pair, _, rfl⟩ := List.mem_map.mp found
      rfl
    · contradiction

end Draft

theorem Definition.exists_validate_of_load_eq_invalid {marker : CommentMarker} {policy : Policy}
    {text : String} {issues : List Issue}
    (refused : Definition.load marker policy text = .error (.invalid issues)) :
    ∃ draft : Draft, draft.validate policy = .error issues := by
  unfold Definition.load at refused
  split at refused
  · cases refused
  next draft read =>
    unfold Definition.loadDraft at refused
    split at refused
    next judged =>
      cases refused
      exact ⟨draft, judged⟩
    · split at refused <;> cases refused

theorem append_ne_empty {first second : String} (nonempty : first ≠ "") :
    first ++ second ≠ "" := by
  simp [nonempty]

theorem Issue.message_ne_empty (issue : Issue) : issue.message ≠ "" := by
  cases issue with
  | malformedLine line =>
      have separated : line.fault.detail ++ ": " ≠ "" := by simp
      exact append_ne_empty separated
  | noStates | noAlphabet | noStart => decide
  | undeclaredStart | undeclaredAccepting | undeclaredSource | undeclaredSymbol
  | undeclaredTarget | conflict | missing | unreachable =>
      repeat apply append_ne_empty
      decide

theorem Issue.render_ne_empty (issue : Issue) : issue.render ≠ "" := by
  have worded := issue.message_ne_empty
  unfold Issue.render Issue.withLine
  split
  · simp [MalformedLine.located]
  · exact worded

theorem LoadError.message_invalid {issues : List Issue} (nonempty : issues ≠ []) :
    (LoadError.invalid issues).message =
      "invalid automaton: " ++ "; ".intercalate (issues.map Issue.render) := by
  have worded : "; ".intercalate (issues.map Issue.render) ≠ "" := by
    rcases issues with _ | ⟨first, _ | ⟨second, rest⟩⟩
    · contradiction
    · simpa using first.render_ne_empty
    · simp [first.render_ne_empty]
  have joined : LoadError.joined (issues.map Issue.render) =
      "; ".intercalate (issues.map Issue.render) := by
    unfold LoadError.joined
    split
    next empty => contradiction
    · rfl
  exact congrArg ("invalid automaton: " ++ ·) joined

end Acceptor
