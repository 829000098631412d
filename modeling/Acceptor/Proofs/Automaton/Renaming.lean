import Mathlib.Data.Set.Function
import Mathlib.Logic.Equiv.Basic
import Acceptor.Proofs.Automaton.Run

/-!
Automata that differ in nothing but names.

A renaming says nothing about the order in which states, symbols and transitions are declared, so
the tables of the two automata may have nothing in common.  Runs are related through the states
that their places stand for.
-/

namespace Acceptor

def RunFault.rename (stateName : String → String) (symbolName : Char → Char)
    (fault : RunFault) : RunFault where
  kind := fault.kind
  symbol := fault.symbol.map symbolName
  position := fault.position
  state? := fault.state?.map stateName

def Verdict.rename (stateName : String → String) (symbolName : Char → Char)
    (verdict : Verdict) : Verdict where
  accepted := verdict.accepted
  trace := verdict.trace.map stateName
  fault? := verdict.fault?.map (RunFault.rename stateName symbolName)

namespace Automaton

/-- New names for the states and the symbols of an automaton turn it into another one. -/
structure IsRenaming (stateName : String → String) (symbolName : Char → Char)
    (automaton renamed : Automaton) : Prop where
  state_injOn : Set.InjOn stateName {state | state ∈ automaton.states}
  symbol_injective : Function.Injective symbolName
  mem_states_iff : ∀ name,
    name ∈ renamed.states ↔ ∃ state ∈ automaton.states, stateName state = name
  mem_alphabet_iff : ∀ name,
    name ∈ renamed.alphabet ↔ ∃ symbol ∈ automaton.alphabet, symbolName symbol = name
  start_eq : renamed.start = stateName automaton.start
  mem_accepting_iff : ∀ name,
    name ∈ renamed.accepting ↔ ∃ state ∈ automaton.accepting, stateName state = name
  next?_iff : ∀ state ∈ automaton.states, ∀ symbol ∈ automaton.alphabet,
    ∀ target ∈ automaton.states,
      (automaton.next? state symbol = some target ↔
        renamed.next? (stateName state) (symbolName symbol) = some (stateName target))

namespace IsRenaming

variable {stateName : String → String} {symbolName : Char → Char} {automaton renamed : Automaton}
  {state : String}

theorem symbol_mem_iff (isRenaming : IsRenaming stateName symbolName automaton renamed)
    (symbol : Char) : symbolName symbol ∈ renamed.alphabet ↔ symbol ∈ automaton.alphabet := by
  rw [isRenaming.mem_alphabet_iff]
  constructor
  · rintro ⟨other, membership, same⟩
    exact isRenaming.symbol_injective same ▸ membership
  · intro membership
    exact ⟨symbol, membership, rfl⟩

theorem accepting_mem_iff (isRenaming : IsRenaming stateName symbolName automaton renamed)
    (known : state ∈ automaton.states) :
    stateName state ∈ renamed.accepting ↔ state ∈ automaton.accepting := by
  rw [isRenaming.mem_accepting_iff]
  constructor
  · rintro ⟨other, membership, same⟩
    have equal := isRenaming.state_injOn (automaton.accepting_subset other membership) known same
    exact equal ▸ membership
  · intro membership
    exact ⟨state, membership, rfl⟩

/-- The renamed automaton moves where the automaton does and nowhere else. -/
theorem next?_map (isRenaming : IsRenaming stateName symbolName automaton renamed)
    (known : state ∈ automaton.states) (symbol : Char) :
    renamed.next? (stateName state) (symbolName symbol) =
      (automaton.next? state symbol).map stateName := by
  apply Option.ext
  intro name
  rw [Option.map_eq_some_iff]
  constructor
  · intro moved
    obtain ⟨_, own, targetKnown⟩ := endpoints_mem_of_next? moved
    obtain ⟨target, isState, rfl⟩ := (isRenaming.mem_states_iff name).mp targetKnown
    have symbolKnown := (isRenaming.symbol_mem_iff symbol).mp own
    have movedBefore :=
      (isRenaming.next?_iff state known symbol symbolKnown target isState).mpr moved
    exact ⟨target, movedBefore, rfl⟩
  · rintro ⟨target, moved, rfl⟩
    obtain ⟨_, symbolKnown, isState⟩ := endpoints_mem_of_next? moved
    exact (isRenaming.next?_iff state known symbol symbolKnown target isState).mp moved

theorem stopFault_map (isRenaming : IsRenaming stateName symbolName automaton renamed)
    (state : String) (symbol : Char) (position : Nat) :
    renamed.stopFault (stateName state) (symbolName symbol) position =
      (automaton.stopFault state symbol position).rename stateName symbolName := by
  have symbolText : String.singleton (symbolName symbol) =
      (String.singleton symbol).map symbolName := by
    rw [← String.toList_inj]
    simp
  by_cases own : symbol ∈ automaton.alphabet
  · rw [stopFault, stopFault, if_pos own, if_pos ((isRenaming.symbol_mem_iff symbol).mpr own),
      symbolText]
    rfl
  · rw [stopFault, stopFault, if_neg own, if_neg (mt (isRenaming.symbol_mem_iff symbol).mp own),
      symbolText]
    rfl

/-- From places of a state and of its new name the two runs keep step. -/
theorem simulateFrom_map (isRenaming : IsRenaming stateName symbolName automaton renamed)
    (word : List Char) (place : Fin automaton.states.length)
    (newPlace : Fin renamed.states.length) (position : Nat)
    (named : renamed.states.get newPlace = stateName (automaton.states.get place)) :
    renamed.simulateFrom newPlace position (word.map symbolName) =
      (automaton.simulateFrom place position word).rename stateName symbolName := by
  induction word generalizing place newPlace position with
  | nil =>
      have known : automaton.states.get place ∈ automaton.states := List.get_mem _ _
      rw [List.map_nil, simulateFrom_nil, simulateFrom_nil, named]
      simp only [isRenaming.accepting_mem_iff known]
      rfl
  | cons symbol rest inductionHypothesis =>
      have known : automaton.states.get place ∈ automaton.states := List.get_mem _ _
      -- The place of the new state is not that of the old one, but both go on or stop alike.
      have next := isRenaming.next?_map known symbol
      rw [← named] at next
      rw [List.map_cons]
      cases moved : automaton.next? (automaton.states.get place) symbol with
      | none =>
          rw [moved] at next
          rw [simulateFrom_cons_of_none moved, simulateFrom_cons_of_none next, named,
            isRenaming.stopFault_map]
          rfl
      | some target =>
          rw [moved] at next
          obtain ⟨nextPlace, rfl, run⟩ := exists_simulateFrom_cons_of_some moved
          obtain ⟨newNext, newNamed, newRun⟩ := exists_simulateFrom_cons_of_some next
          rw [run, newRun, inductionHypothesis nextPlace newNext (position + 1) newNamed, named]
          rfl

/-- A renamed automaton reads a line in new symbols as the automaton reads the line: it takes the
same number of steps, through the states with the new names, and stops for the same reason. -/
theorem simulate_map (isRenaming : IsRenaming stateName symbolName automaton renamed)
    (line : String) :
    renamed.simulate (line.map symbolName) =
      (automaton.simulate line).rename stateName symbolName := by
  rw [simulate, simulate, String.toList_map]
  apply isRenaming.simulateFrom_map
  rw [states_startPlace, states_startPlace, isRenaming.start_eq]

end IsRenaming

/-- An automaton that cannot go on from one of its states on one of its symbols. -/
def alternating : Automaton where
  states := ["even", "odd"]
  alphabet := ['a', 'b']
  transitions := .ofList [(("even", 'a'), "odd"), (("odd", 'a'), "even"), (("odd", 'b'), "odd")]
  start := "even"
  accepting := ["odd"]
  states_nodup := by decide
  alphabet_nodup := by decide
  alphabet_ne_nil := by decide
  start_mem := by decide
  accepting_subset := by decide
  source_mem := by decide
  symbol_mem := by decide
  target_mem := by decide

/-- The same automaton with its two symbols exchanged and its parts declared the other way
round. -/
def exchanged : Automaton where
  states := ["q odd", "q even"]
  alphabet := ['a', 'b']
  transitions := .ofList
    [(("q odd", 'a'), "q odd"), (("q odd", 'b'), "q even"), (("q even", 'b'), "q odd")]
  start := "q even"
  accepting := ["q odd"]
  states_nodup := by decide
  alphabet_nodup := by decide
  alphabet_ne_nil := by decide
  start_mem := by decide
  accepting_subset := by decide
  source_mem := by decide
  symbol_mem := by decide
  target_mem := by decide

theorem isRenaming_exchanged :
    IsRenaming ("q " ++ ·) (Equiv.swap 'a' 'b') alternating exchanged where
  state_injOn := by
    intro state _ other _ same
    exact String.append_right_inj "q " |>.mp same
  symbol_injective := Equiv.injective _
  mem_states_iff := by simp [alternating, exchanged, eq_comm, or_comm]
  mem_alphabet_iff := by simp [alternating, exchanged, eq_comm, or_comm]
  start_eq := rfl
  mem_accepting_iff := by simp [alternating, exchanged, eq_comm]
  next?_iff := by
    intro state isState symbol isSymbol
    have isLetter : symbol = 'a' ∨ symbol = 'b' := by simpa [alternating] using isSymbol
    revert state
    rcases isLetter with rfl | rfl <;> decide

theorem simulate_exchanged :
    IsRenaming ("q " ++ ·) (Equiv.swap 'a' 'b') alternating exchanged ∧
      exchanged.simulate ("abaax".map (Equiv.swap 'a' 'b')) =
        (alternating.simulate "abaax").rename ("q " ++ ·) (Equiv.swap 'a' 'b') :=
  ⟨isRenaming_exchanged, isRenaming_exchanged.simulate_map "abaax"⟩

end Automaton

end Acceptor
