import Acceptor.Proofs.Automaton.Transitions

/-!
The empty cells of the table are the places where the transition function is undefined.
-/

namespace Acceptor.Automaton

variable {automaton : Automaton} {state : String} {symbol : Char}

theorem bind_finIdxOf?_eq_none_iff :
    (automaton.next? state symbol).bind automaton.states.finIdxOf? = none ↔
      automaton.next? state symbol = none := by
  cases found : automaton.next? state symbol with
  | none => simp
  | some target =>
      obtain ⟨_, _, known⟩ := endpoints_mem_of_next? found
      simpa using known

/-- Row by row and cell by cell, the table holds the places of the targets. -/
theorem cells_eq (automaton : Automaton) :
    automaton.cells = automaton.states.map fun state =>
      automaton.alphabet.map fun symbol =>
        ((state, symbol), (automaton.next? state symbol).bind automaton.states.finIdxOf?) := by
  apply List.ext_getElem
  · simp [cells]
  · intro row inCells inStates
    apply List.ext_getElem
    · simp [cells]
    · intro column inRow inAlphabet
      have rowBound : row < automaton.states.length := by simpa using inStates
      have columnBound : column < automaton.alphabet.length := by simpa using inAlphabet
      have cell := automaton.table_get? ⟨row, rowBound⟩ ⟨column, columnBound⟩
      simpa [cells, Table.get?] using cell

theorem map_map_snd_cells (automaton : Automaton) :
    automaton.cells.map (·.map Prod.snd) = automaton.table.toList.map Vector.toList := by
  have row_eq (row : Vector (Option (Fin automaton.states.length)) automaton.alphabet.length) :
      (automaton.alphabet.zip row.toList).map Prod.snd = row.toList := by
    apply List.map_snd_zip
    simp
  have rows_eq : (automaton.states.zip automaton.table.toList).map Prod.snd =
      automaton.table.toList := by
    apply List.map_snd_zip
    simp
  conv_rhs => rw [← rows_eq, List.map_map]
  rw [cells, List.map_map]
  apply List.map_congr_left
  intro entry _
  rw [Function.comp_apply, List.map_map]
  exact row_eq entry.2

/-- The pairs without a transition, by state and then by symbol. -/
theorem missing_eq (automaton : Automaton) :
    automaton.missing = automaton.states.flatMap fun state =>
      (automaton.alphabet.filter fun symbol => automaton.next? state symbol = none).map
        (state, ·) := by
  rw [missing, cells_eq, List.flatMap_map]
  congr 1
  funext state
  rw [List.filter_map, List.map_map]
  congr 1
  apply List.filter_congr
  intro symbol _
  rw [Bool.eq_iff_iff, decide_eq_true_iff, ← bind_finIdxOf?_eq_none_iff]
  exact Option.isNone_iff_eq_none

theorem mem_missing_iff :
    (state, symbol) ∈ automaton.missing ↔
      state ∈ automaton.states ∧ symbol ∈ automaton.alphabet ∧
        automaton.next? state symbol = none := by
  rw [missing_eq]
  simp

theorem isComplete_eq_true_iff : automaton.isComplete = true ↔ automaton.missing = [] := by
  have all_eq : automaton.isComplete =
      (automaton.table.toList.map Vector.toList).all fun row => row.all Option.isSome := by
    rw [isComplete, List.all_map]
    rfl
  rw [all_eq, ← map_map_snd_cells, missing, List.flatMap_eq_nil_iff, List.all_map,
    List.all_eq_true]
  refine forall₂_congr fun row _ => ?_
  simp [Option.isSome_iff_ne_none]

end Acceptor.Automaton
