import Acceptor.Proofs.Session.History

/-!
When a session runs a batch, and what it says when it cannot.
-/

namespace Acceptor.Session

variable {session : Session} {tree : Tree} {batch? : Option Batch} {cancelAfter? : Option Nat}

/-- An automaton is asked for first, and then an input. -/
theorem run_eq_error_iff {failure : Failure} :
    session.run batch? cancelAfter? = .error failure ↔
      failure = .noAutomaton ∧ session.active? = none ∨
        failure = .noInput ∧ session.active? ≠ none ∧ batch? = none ∧ session.input? = none := by
  unfold run
  cases session.active? with
  | none => simp [eq_comm]
  | some active =>
      cases batch? with
      | none => cases session.input? <;> simp [eq_comm]
      | some batch => simp

theorem run_eq_ok {active : Active} {batch : Batch} (given : session.active? = some active)
    (chosen : batch?.or (session.input?.map LoadedInput.batch) = some batch) :
    session.run batch? cancelAfter? =
      .ok (batch.run active.loaded.automaton session.settings.workers cancelAfter?) := by
  simp only [run, given, chosen]

namespace Event

/-- The event fails for a reason of a family, and a message tells it. -/
def FailsWith (event : Event) (family : Failure.Family) (message : String) : Prop :=
  ∃ failure, event.result = .error failure ∧ failure.family = family ∧ failure.message = message

structure Runs (event : Event) (batch? : Option Batch) (cancelAfter? : Option Nat) : Prop where
  no_automaton_iff : event.FailsWith .state "no DFA loaded" ↔ event.session.active? = none
  no_input_iff : event.FailsWith .state "no input loaded" ↔
    event.session.active? ≠ none ∧ batch? = none ∧ event.session.input? = none
  reports : ∀ active batch, event.session.active? = some active →
    batch?.or (event.session.input?.map LoadedInput.batch) = some batch →
      event.result = .ok (.report (batch.run active.loaded.automaton
        event.session.settings.workers cancelAfter?))

theorem failsWith_run_iff {family : Failure.Family} {message : String} :
    (take session tree (.run batch? cancelAfter?)).FailsWith family message ↔
      ∃ failure, session.run batch? cancelAfter? = .error failure ∧
        failure.family = family ∧ failure.message = message := by
  unfold FailsWith
  cases running : session.run batch? cancelAfter? with
  | error failure => rw [result_of_taken (take_run_of_error running)]; simp
  | ok report => rw [result_of_taken (take_run_of_ok running)]; simp

theorem runs_take (session : Session) (tree : Tree) (batch? : Option Batch)
    (cancelAfter? : Option Nat) :
    (take session tree (.run batch? cancelAfter?)).Runs batch? cancelAfter? := by
  constructor
  · rw [failsWith_run_iff]
    constructor
    · rintro ⟨failure, failed, _, message⟩
      rcases run_eq_error_iff.mp failed with ⟨rfl, inactive⟩ | ⟨rfl, _⟩
      · exact inactive
      · exact absurd message (by decide)
    · intro inactive
      exact ⟨_, run_eq_error_iff.mpr (.inl ⟨rfl, inactive⟩), rfl, rfl⟩
  · rw [failsWith_run_iff]
    constructor
    · rintro ⟨failure, failed, _, message⟩
      rcases run_eq_error_iff.mp failed with ⟨rfl, _⟩ | ⟨rfl, without⟩
      · exact absurd message (by decide)
      · exact without
    · intro without
      exact ⟨_, run_eq_error_iff.mpr (.inr ⟨rfl, without⟩), rfl, rfl⟩
  · intro active batch given chosen
    exact result_of_taken (take_run_of_ok (run_eq_ok given chosen))

end Event

end Acceptor.Session
