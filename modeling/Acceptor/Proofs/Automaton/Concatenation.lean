import Acceptor.Proofs.Automaton.Run

/-!
Runs over lines put together.

A run over two lines in a row is the run over the first, and if nothing stops it there, it goes on
with the second line as if it had been started in the state in which the first one ended.
-/

namespace Acceptor

def RunFault.delay (count : Nat) (fault : RunFault) : RunFault :=
  { fault with position := fault.position + count }

def Verdict.delay (count : Nat) (verdict : Verdict) : Verdict :=
  { verdict with fault? := verdict.fault?.map (RunFault.delay count) }

/-- The outcome of a run that goes on where another ended: the first state of the second trace is
the last one of the first. -/
def Verdict.followedBy (first second : Verdict) : Verdict :=
  { second with trace := first.trace ++ second.trace.tail }

namespace Automaton

variable {automaton : Automaton} {place : Fin automaton.states.length} {position : Nat}
  {word : List Char}

/-! ## Runs that begin elsewhere -/

theorem states_get_injective (automaton : Automaton) : Function.Injective automaton.states.get :=
  List.nodup_iff_injective_get.mp automaton.states_nodup

theorem exists_place_of_next? {state next : String} {symbol : Char}
    (moved : automaton.next? state symbol = some next) :
    ∃ nextPlace, automaton.states.get nextPlace = next :=
  List.get_of_mem (endpoints_mem_of_next? moved).2.2

theorem simulateFrom_cons_of_some {nextPlace : Fin automaton.states.length} {symbol : Char}
    (moved : automaton.next? (automaton.states.get place) symbol =
      some (automaton.states.get nextPlace)) (position : Nat) (rest : List Char) :
    automaton.simulateFrom place position (symbol :: rest) =
      (automaton.simulateFrom nextPlace (position + 1) rest).startingAt
        (automaton.states.get place) := by
  obtain ⟨other, named, run⟩ := exists_simulateFrom_cons_of_some moved
  rw [run, automaton.states_get_injective named]

theorem stopFault_add (automaton : Automaton) (state : String) (symbol : Char)
    (position count : Nat) : automaton.stopFault state symbol (position + count) =
      (automaton.stopFault state symbol position).delay count := by
  unfold stopFault
  split <;> simp [RunFault.delay]

/-- The position at which a run is begun shows in the position of its fault alone. -/
theorem simulateFrom_add (place : Fin automaton.states.length) (position count : Nat)
    (word : List Char) : automaton.simulateFrom place (position + count) word =
      (automaton.simulateFrom place position word).delay count := by
  induction word generalizing place position with
  | nil => rfl
  | cons symbol rest inductionHypothesis =>
      cases moved : automaton.next? (automaton.states.get place) symbol with
      | none =>
          rw [simulateFrom_cons_of_none moved, simulateFrom_cons_of_none moved, stopFault_add]
          rfl
      | some next =>
          obtain ⟨nextPlace, rfl⟩ := exists_place_of_next? moved
          rw [simulateFrom_cons_of_some moved, simulateFrom_cons_of_some moved,
            Nat.add_right_comm, inductionHypothesis]
          rfl

/-- The start state counts only where a run begins. -/
theorem simulateFrom_restartAt {state : String} (known : state ∈ automaton.states)
    (place : Fin automaton.states.length) (position : Nat) (word : List Char) :
    (automaton.restartAt state known).simulateFrom place position word =
      automaton.simulateFrom place position word := by
  induction word generalizing place position with
  | nil => rfl
  | cons symbol rest inductionHypothesis =>
      cases moved : automaton.next? (automaton.states.get place) symbol with
      | none =>
          rw [simulateFrom_cons_of_none moved]
          exact simulateFrom_cons_of_none moved
      | some next =>
          obtain ⟨nextPlace, rfl⟩ := exists_place_of_next? moved
          have restarted : (automaton.restartAt state known).next?
              (automaton.states.get place) symbol = some (automaton.states.get nextPlace) := moved
          rw [simulateFrom_cons_of_some moved, ← inductionHypothesis]
          exact simulateFrom_cons_of_some restarted position rest

/-- An automaton restarted at a state runs from the place of that state. -/
theorem simulate_restartAt (place : Fin automaton.states.length)
    (known : automaton.states.get place ∈ automaton.states) (line : String) :
    (automaton.restartAt (automaton.states.get place) known).simulate line =
      automaton.simulateFrom place 0 line.toList := by
  have placed : (automaton.restartAt (automaton.states.get place) known).startPlace = place :=
    automaton.states_get_injective (List.getElem_idxOf _)
  rw [simulate, placed]
  exact simulateFrom_restartAt known place 0 line.toList

/-! ## Two lines in a row -/

theorem head?_trace_simulateFrom (place : Fin automaton.states.length) (position : Nat)
    (word : List Char) : (automaton.simulateFrom place position word).trace.head? =
      some (automaton.states.get place) := by
  obtain ⟨_, _, isVerdict⟩ := exists_isVerdict_simulateFrom automaton word place position
  exact isVerdict.trace_head

theorem followedBy_simulateFrom (place : Fin automaton.states.length) (position : Nat)
    (word : List Char) :
    (automaton.simulateFrom place position []).followedBy
        (automaton.simulateFrom place position word) =
      automaton.simulateFrom place position word := by
  obtain ⟨others, trace⟩ := List.head?_eq_some_iff.mp (head?_trace_simulateFrom place position word)
  simp only [Verdict.followedBy, simulateFrom_nil, trace, List.tail_cons, List.singleton_append]
  rw [← trace]

/-- A run over two words is the run over the first one, unless nothing stops that: then it goes on
from the place where the first ended. -/
theorem exists_simulateFrom_append (place : Fin automaton.states.length) (position : Nat)
    (word rest : List Char) :
    ∃ last, (automaton.simulateFrom place position word).final? =
        some (automaton.states.get last) ∧
      automaton.simulateFrom place position (word ++ rest) =
        if (automaton.simulateFrom place position word).fault?.isSome then
          automaton.simulateFrom place position word
        else
          (automaton.simulateFrom place position word).followedBy
            (automaton.simulateFrom last (position + word.length) rest) := by
  induction word generalizing place position with
  | nil => exact ⟨place, rfl, (followedBy_simulateFrom place position rest).symm⟩
  | cons symbol word inductionHypothesis =>
      cases moved : automaton.next? (automaton.states.get place) symbol with
      | none =>
          rw [List.cons_append, simulateFrom_cons_of_none moved, simulateFrom_cons_of_none moved]
          exact ⟨place, rfl, rfl⟩
      | some next =>
          obtain ⟨nextPlace, rfl⟩ := exists_place_of_next? moved
          obtain ⟨last, final, run⟩ := inductionHypothesis nextPlace (position + 1)
          -- One state more at its front does not change where a trace ends, unless it is empty.
          have nonempty : (automaton.simulateFrom nextPlace (position + 1) word).trace ≠ [] := by
            intro empty
            rw [Verdict.final?, empty] at final
            contradiction
          rw [List.cons_append, simulateFrom_cons_of_some moved, simulateFrom_cons_of_some moved,
            final?_startingAt nonempty, run, List.length_cons, Nat.add_comm word.length,
            ← Nat.add_assoc]
          refine ⟨last, final, ?_⟩
          rw [apply_ite (Verdict.startingAt (automaton.states.get place))]
          rfl

/-- A run over two lines in a row is the run over the first line if that stops for a fault.
Otherwise it goes on with the second line as the automaton does that is restarted at the state in
which the first line ended. -/
theorem exists_simulate_append (automaton : Automaton) (first second : String) :
    ∃ last, ∃ known : last ∈ automaton.states,
      (automaton.simulate first).final? = some last ∧
      automaton.simulate (first ++ second) =
        if (automaton.simulate first).fault?.isSome then automaton.simulate first
        else (automaton.simulate first).followedBy
          (((automaton.restartAt last known).simulate second).delay first.length) := by
  obtain ⟨last, final, run⟩ := exists_simulateFrom_append automaton.startPlace 0
    first.toList second.toList
  refine ⟨automaton.states.get last, List.get_mem _ _, final, ?_⟩
  rw [simulate_restartAt, ← simulateFrom_add, ← String.length_toList, simulate, simulate,
    String.toList_append]
  exact run

end Automaton

end Acceptor
