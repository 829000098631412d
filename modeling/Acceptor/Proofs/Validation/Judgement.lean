import Acceptor.Proofs.Validation.Findings

/-!
What a draft is judged to be.

A draft is refused with all that violates the first requirement that it does not meet, and with
nothing else.
-/

namespace Acceptor

variable {draft : Draft} {policy : Policy}

namespace Requirement

def ofCheck : Check → Requirement
  | .states => .states
  | .alphabet => .alphabet
  | .start => .start
  | .accepting => .accepting
  | .endpoints => .endpoints
  | .determinism => .determinism

def issues (draft : Draft) : Requirement → List Issue
  | .states => Check.issues draft .states
  | .alphabet => Check.issues draft .alphabet
  | .start => Check.issues draft .start
  | .accepting => Check.issues draft .accepting
  | .endpoints => Check.issues draft .endpoints
  | .determinism => Check.issues draft .determinism
  | .completeness => draft.missingIssues

theorem issues_ofCheck (draft : Draft) (check : Check) :
    (ofCheck check).issues draft = check.issues draft := by
  cases check <;> rfl

theorem isListing_issues (draft : Draft) (requirement : Requirement) :
    IsListing (Violation draft requirement) (requirement.issues draft) := by
  cases requirement with
  | states => exact isListing_states
  | alphabet => exact isListing_alphabet
  | start => exact isListing_start
  | accepting => exact isListing_accepting
  | endpoints => exact isListing_endpoints
  | determinism => exact isListing_determinism
  | completeness => exact isListing_completeness

theorem issues_eq_nil_iff {requirement : Requirement} :
    requirement.issues draft = [] ↔ requirement.IsMet draft := by
  cases requirement with
  | states => simp [issues, IsMet, Check.issues]
  | alphabet => simp [issues, IsMet, Check.issues]
  | start => exact Check.startIssues_eq_nil_iff
  | accepting => simp [issues, IsMet, Check.issues]
  | endpoints =>
      exact List.flatMap_eq_nil_iff.trans
        (forall₂_congr fun _ _ => Check.endpointIssues_eq_nil_iff)
  | determinism => exact Check.conflicts_eq_nil_iff
  | completeness =>
      simp [issues, IsMet, Draft.missingIssues, Draft.missing, List.flatMap_eq_nil_iff]

def unmet? (policy : Policy) (draft : Draft) : Option Requirement :=
  (all policy).find? fun requirement => requirement.issues draft ≠ []

theorem all_eq (policy : Policy) :
    all policy = Check.all.map ofCheck ++ if policy.strict then [.completeness] else [] := rfl

theorem unmet?_eq (policy : Policy) (draft : Draft) :
    unmet? policy draft = (draft.failure?.map fun found => ofCheck found.1).or
      (if policy.strict = true ∧ draft.missing ≠ [] then some .completeness else none) := by
  have checked : ((Check.all.map ofCheck).find? fun requirement =>
      requirement.issues draft ≠ []) = draft.failure?.map fun found => ofCheck found.1 := by
    unfold Draft.failure?
    rw [List.find?_map, List.find?_map, Option.map_map]
    simp only [Function.comp_def, issues_ofCheck]
  rw [unmet?, all_eq, List.find?_append, checked]
  congr 1
  by_cases strict : policy.strict = true
  · by_cases complete : draft.missing = [] <;>
      simp [strict, complete, issues, Draft.missingIssues]
  · simp [strict]

theorem isFirstUnmet_iff {requirement : Requirement} :
    requirement.IsFirstUnmet policy draft ↔ unmet? policy draft = some requirement := by
  rw [unmet?, List.find?_eq_some_iff_append, IsFirstUnmet]
  simp only [ne_eq, issues_eq_nil_iff, decide_eq_true_eq, Bool.not_eq_true',
    decide_eq_false_iff_not, not_not]

end Requirement

namespace Draft

theorem validate_eq_match (policy : Policy) (draft : Draft) :
    draft.validate policy = match Requirement.unmet? policy draft with
      | some requirement => .error (requirement.issues draft)
      | none => .ok (draft.warnings policy) := by
  rw [Requirement.unmet?_eq, validate]
  cases failed : draft.failure? with
  | some found =>
      obtain ⟨check, _, rfl⟩ := List.mem_map.mp (List.mem_of_find?_eq_some failed)
      simp [Requirement.issues_ofCheck]
  | none =>
      by_cases refused : policy.strict = true ∧ draft.missing ≠ []
      · simp [refused, Requirement.issues]
      · simp [refused, warnings]

/-- A draft is accepted exactly if it meets all that is asked of it, and otherwise it is refused
with just what violates the first requirement that it does not meet. -/
theorem validate_ok_iff_and_error_iff_isListing (policy : Policy) (draft : Draft) :
    ((∃ warnings, draft.validate policy = .ok warnings) ↔
        ∀ requirement ∈ Requirement.all policy, requirement.IsMet draft) ∧
      ∀ issues, draft.validate policy = .error issues ↔
        ∃ requirement, requirement.IsFirstUnmet policy draft ∧
          IsListing (Violation draft requirement) issues := by
  rw [validate_eq_match]
  constructor
  · have allMet : Requirement.unmet? policy draft = none ↔
        ∀ requirement ∈ Requirement.all policy, requirement.IsMet draft := by
      simp only [Requirement.unmet?, List.find?_eq_none, decide_eq_true_eq, ne_eq, not_not,
        Requirement.issues_eq_nil_iff]
    rw [← allMet]
    cases Requirement.unmet? policy draft <;> simp
  · intro issues
    simp only [Requirement.isFirstUnmet_iff]
    cases found : Requirement.unmet? policy draft with
    | none => simp
    | some requirement =>
        have listing := Requirement.isListing_issues draft requirement
        simp only [Except.error.injEq, Option.some.injEq, exists_eq_left']
        constructor
        · rintro rfl
          exact listing
        · exact listing.unique

/-- Each contradiction is told beside the first rule, also where a later rule agrees with it. -/
example :
    validate {} {
      states := ["s", "t"]
      alphabet := ["a"]
      start? := some "s"
      rules := [⟨"s", "a", "s", some 5⟩, ⟨"s", "a", "t", some 6⟩, ⟨"s", "a", "s", some 7⟩,
        ⟨"s", "a", "t", some 8⟩] } =
      .error [.conflict "s" "a" "s" "t" (some 6), .conflict "s" "a" "s" "t" (some 8)] := by
  decide

end Draft

end Acceptor
