import Acceptor.Automaton.Basic
import Acceptor.Automaton.Verdict

/-!
Running an automaton on a line.

`simulate` reads the table and keeps the place of the current state.  `walk` follows the
transition map from state to state, as in the textbook, and knows nothing of the table.
-/

namespace Acceptor.Automaton

/-- Reads the rest of a line at the place of a state.  The run stops at the first symbol
outside the alphabet and at the first missing transition. -/
def simulateFrom (automaton : Automaton) (place : Fin automaton.states.length)
    (position : Nat) : List Char → Verdict
  | [] =>
      let state := automaton.states[place]
      { accepted := state ∈ automaton.accepting, trace := [state] }
  | symbol :: rest =>
      let state := automaton.states[place]
      match automaton.alphabet.finIdxOf? symbol with
      | none =>
          { accepted := false
            trace := [state]
            fault? := some {
              kind := .unknownSymbol, symbol := String.singleton symbol, position } }
      | some column =>
          match automaton.table.get? place column with
          | none =>
              { accepted := false
                trace := [state]
                fault? := some {
                  kind := .noTransition
                  symbol := String.singleton symbol
                  position
                  state? := some state } }
          | some next =>
              (automaton.simulateFrom next (position + 1) rest).startingAt state

def startPlace (automaton : Automaton) : Fin automaton.states.length :=
  ⟨automaton.states.idxOf automaton.start, List.idxOf_lt_length_iff.mpr automaton.start_mem⟩

def simulate (automaton : Automaton) (line : String) : Verdict :=
  automaton.simulateFrom automaton.startPlace 0 line.toList

/-- The states that the transition map leads to from a state, symbol by symbol, as long as
it is defined. -/
def walk (automaton : Automaton) (state : String) : List Char → List String
  | [] => []
  | symbol :: rest =>
      match automaton.next? state symbol with
      | none => []
      | some next => next :: automaton.walk next rest

/-- The transition map leads from one state to another along a word. -/
inductive Leads (automaton : Automaton) : String → List Char → String → Prop where
  | here {state : String} : Leads automaton state [] state
  | step {state next last : String} {symbol : Char} {rest : List Char} :
      automaton.next? state symbol = some next →
      Leads automaton next rest last →
      Leads automaton state (symbol :: rest) last

end Acceptor.Automaton
