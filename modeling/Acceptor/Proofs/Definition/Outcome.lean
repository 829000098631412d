import Mathlib.Logic.ExistsUnique
import Acceptor.Proofs.Definition.Orderly

/-!
Judging a definition and loading it tell the same story.

Each text has exactly one of three outcomes, and in each of them what `Definition.check` and
`Definition.load` come to is tied together.
-/

namespace Acceptor.Definition

inductive Outcome where
  | accepted
  | malformed
  | refused
  deriving DecidableEq, Repr

def Outcome.Holds (judged : Except (List Issue) (List Issue))
    (loading : Except LoadError Loaded) : Outcome → Prop
  | .accepted => ∃ loaded, judged = .ok loaded.warnings ∧ loading = .ok loaded
  | .malformed => ∃ issue line, judged = .error [issue] ∧ loading = .error (.malformed line) ∧
      issue.kind = .malformedLine ∧ issue.line? = some (line.number : Int) ∧
      issue.render = (LoadError.malformed line).message
  | .refused => ∃ issues, issues ≠ [] ∧ judged = .error issues ∧ loading = .error (.invalid issues)

/-- No result of loading belongs to two outcomes. -/
theorem Outcome.eq_of_holds {judged : Except (List Issue) (List Issue)}
    {loading : Except LoadError Loaded} {outcome other : Outcome}
    (holds : outcome.Holds judged loading) (otherHolds : other.Holds judged loading) :
    outcome = other := by
  cases outcome <;> cases other <;> grind [Outcome.Holds]

variable {policy : Policy} {draft : Draft} {issues warnings : List Issue}

/-- A draft is never refused without an issue. -/
theorem ne_nil_of_validate_eq_error (refused : draft.validate policy = .error issues) :
    issues ≠ [] := by
  unfold Draft.validate at refused
  split at refused
  next check found failed =>
    cases refused
    simpa using List.find?_some failed
  next passed =>
    split at refused
    next incomplete =>
      cases refused
      intro empty
      exact incomplete.2 (List.map_eq_nil_iff.mp empty)
    · contradiction

theorem load_of_ofText {marker : CommentMarker} {text : String}
    (read : Draft.ofText marker text = .ok draft) :
    load marker policy text = loadDraft policy draft := by
  rw [load, read]

theorem check_of_ofText {marker : CommentMarker} {text : String}
    (read : Draft.ofText marker text = .ok draft) :
    check marker policy text = draft.validate policy := by
  rw [check, read]

theorem exists_outcome (marker : CommentMarker) (policy : Policy) (text : String) :
    ∃ outcome : Outcome, outcome.Holds (check marker policy text) (load marker policy text) := by
  cases read : Draft.ofText marker text with
  | error line =>
      refine ⟨.malformed, .malformedLine line, line, ?_, ?_, rfl, rfl, rfl⟩
      · rw [check, read]
      · rw [load, read]
  | ok draft =>
      rw [check_of_ofText read, load_of_ofText read]
      cases judged : draft.validate policy with
      | error issues =>
          refine ⟨.refused, issues, ne_nil_of_validate_eq_error judged, rfl, ?_⟩
          rw [loadDraft, judged]
      | ok warnings =>
          -- Here the building cannot fail, though judging has not looked at long symbols.
          have sound := (Draft.validate_eq_ok_iff.mp judged).1
          obtain ⟨automaton, built⟩ := sound.exists_build_of_ofText read
          refine ⟨.accepted, ⟨automaton, warnings⟩, rfl, ?_⟩
          exact loadDraft_eq_ok_iff.mpr ⟨judged, built⟩

section

variable {marker : CommentMarker} {text : String}

theorem check_of_load_eq_ok {loaded : Loaded} (accepted : load marker policy text = .ok loaded) :
    check marker policy text = .ok loaded.warnings := by
  obtain ⟨outcome, holds⟩ := exists_outcome marker policy text
  rw [accepted] at holds
  cases outcome with
  | accepted =>
      obtain ⟨_, judged, same⟩ := holds
      cases same
      exact judged
  | malformed =>
      obtain ⟨_, _, _, refused, _⟩ := holds
      cases refused
  | refused =>
      obtain ⟨_, _, _, refused⟩ := holds
      cases refused

theorem exists_check_of_load_eq_error {error : LoadError}
    (refused : load marker policy text = .error error) :
    ∃ issues, issues ≠ [] ∧ check marker policy text = .error issues := by
  obtain ⟨outcome, holds⟩ := exists_outcome marker policy text
  rw [refused] at holds
  cases outcome with
  | accepted =>
      obtain ⟨_, _, accepted⟩ := holds
      cases accepted
  | malformed =>
      obtain ⟨issue, _, judged, _⟩ := holds
      exact ⟨[issue], List.cons_ne_nil _ _, judged⟩
  | refused =>
      obtain ⟨issues, nonempty, judged, _⟩ := holds
      exact ⟨issues, nonempty, judged⟩

end

/-- Judging and loading a text have exactly one outcome between them, and whatever is read and
passes all checks is built. -/
theorem existsUnique_outcome (marker : CommentMarker) (policy : Policy) (text : String) :
    (∃! outcome : Outcome,
        outcome.Holds (check marker policy text) (load marker policy text)) ∧
      ∀ draft warnings, Draft.ofText marker text = .ok draft →
        draft.validate policy = .ok warnings → ∃ automaton, draft.build = .ok automaton := by
  constructor
  · obtain ⟨outcome, holds⟩ := exists_outcome marker policy text
    exact ⟨outcome, holds, fun other otherHolds => Outcome.eq_of_holds otherHolds holds⟩
  · intro draft warnings read judged
    exact (Draft.validate_eq_ok_iff.mp judged).1.exists_build_of_ofText read

end Acceptor.Definition
