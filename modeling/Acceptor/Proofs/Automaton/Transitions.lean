import Acceptor.Automaton.Basic
import Acceptor.Proofs.Distinct

/-!
The transition function in its two forms: the table holds at the places of a state and a
symbol what the map holds at their names.
-/

namespace Acceptor

namespace Table

variable {states : List String} {alphabet : List Char}

/-- Writes an entry of a transition map at the places of its state and its symbol. -/
def write (states : List String) (alphabet : List Char)
    (table : Table states.length alphabet.length) (entry : (String × Char) × String) :
    Table states.length alphabet.length :=
  match states.finIdxOf? entry.1.1, alphabet.finIdxOf? entry.1.2, states.finIdxOf? entry.2 with
  | some state, some symbol, some target => table.put state symbol target
  | _, _, _ => table

theorem ofEntries_eq_foldl (entries : List ((String × Char) × String)) :
    ofEntries states alphabet entries =
      entries.foldl (write states alphabet) (blank states.length alphabet.length) := rfl

/-- An entry changes the cell of its own state and symbol and no other. -/
theorem get?_write (distinctStates : states.Nodup) (distinctSymbols : alphabet.Nodup)
    (table : Table states.length alphabet.length) {entry : (String × Char) × String}
    (known : entry.2 ∈ states) (place : Fin states.length) (column : Fin alphabet.length) :
    (write states alphabet table entry).get? place column =
      if entry.1 = (states.get place, alphabet.get column) then states.finIdxOf? entry.2
      else table.get? place column := by
  rcases entry with ⟨⟨source, symbol⟩, target⟩
  obtain ⟨targetPlace, targetFound⟩ : ∃ found, states.finIdxOf? target = some found :=
    Option.isSome_iff_exists.mp (by simpa [List.isSome_finIdxOf?] using known)
  by_cases sameKey : (source, symbol) = (states.get place, alphabet.get column)
  · obtain ⟨rfl, rfl⟩ := Prod.mk.inj sameKey
    have sourceFound : states.finIdxOf? (states.get place) = some place :=
      (finIdxOf?_eq_some_iff_of_nodup distinctStates).mpr rfl
    have symbolFound : alphabet.finIdxOf? (alphabet.get column) = some column :=
      (finIdxOf?_eq_some_iff_of_nodup distinctSymbols).mpr rfl
    rw [if_pos sameKey]
    simp only [write, sourceFound, symbolFound, targetFound, get?_put, and_self, if_true]
  · rw [if_neg sameKey]
    unfold write
    split
    next state letter last stateFound letterFound _ =>
      rw [get?_put, if_neg]
      rintro ⟨rfl, rfl⟩
      have sourceName := (finIdxOf?_eq_some_iff_of_nodup distinctStates).mp stateFound
      have symbolName := (finIdxOf?_eq_some_iff_of_nodup distinctSymbols).mp letterFound
      exact sameKey (Prod.ext sourceName.symm symbolName.symm)
    next => rfl

theorem get?_foldl_write (distinctStates : states.Nodup) (distinctSymbols : alphabet.Nodup)
    {entries : List ((String × Char) × String)} (distinct : (entries.map Prod.fst).Nodup)
    (known : ∀ entry ∈ entries, entry.2 ∈ states)
    (table : Table states.length alphabet.length) (place : Fin states.length)
    (column : Fin alphabet.length) :
    (entries.foldl (write states alphabet) table).get? place column =
      match OrderedMap.find? (states.get place, alphabet.get column) entries with
      | some target => states.finIdxOf? target
      | none => table.get? place column := by
  induction entries generalizing table with
  | nil => rfl
  | cons entry rest inductionHypothesis =>
      obtain ⟨fresh, distinctRest⟩ := List.nodup_cons.mp distinct
      have knownRest : ∀ other ∈ rest, other.2 ∈ states := fun other membership =>
        known other (List.mem_cons_of_mem entry membership)
      rw [List.foldl_cons, inductionHypothesis distinctRest knownRest, OrderedMap.find?,
        get?_write distinctStates distinctSymbols table (known entry List.mem_cons_self)]
      by_cases sameKey : entry.1 = (states.get place, alphabet.get column)
      · have absent : OrderedMap.find? (states.get place, alphabet.get column) rest = none := by
          cases found : OrderedMap.find? (states.get place, alphabet.get column) rest with
          | none => rfl
          | some target =>
              have present := (OrderedMap.find?_eq_some_iff distinctRest).mp found
              exact absurd (List.mem_map.mpr ⟨_, present, sameKey.symm⟩) fresh
        rw [absent, if_pos sameKey, if_pos sameKey]
      · rw [if_neg sameKey, if_neg sameKey]

end Table

namespace Automaton

variable {automaton : Automaton} {source target : String} {symbol : Char}

/-- The endpoints of a transition belong to the automaton. -/
theorem endpoints_mem_of_next? (defined : automaton.next? source symbol = some target) :
    source ∈ automaton.states ∧ symbol ∈ automaton.alphabet ∧ target ∈ automaton.states := by
  have entry := (OrderedMap.get?_eq_some_iff _).mp defined
  exact ⟨automaton.source_mem _ entry, automaton.symbol_mem _ entry,
    automaton.target_mem _ entry⟩

/-- The cell at the places of a state and a symbol is the place of the target. -/
theorem table_get? (automaton : Automaton) (place : Fin automaton.states.length)
    (column : Fin automaton.alphabet.length) :
    automaton.table.get? place column =
      (automaton.next? (automaton.states.get place) (automaton.alphabet.get column)).bind
        automaton.states.finIdxOf? := by
  rw [automaton.table_eq, Table.ofEntries_eq_foldl, Table.get?_foldl_write
    automaton.states_nodup automaton.alphabet_nodup automaton.transitions.keys_nodup
    automaton.target_mem, Table.get?_blank, next?, OrderedMap.get?]
  cases OrderedMap.find? _ automaton.transitions.entries <;> rfl

/-- Named by the states, the table is the transition function. -/
theorem next?_eq_map_table_get? (automaton : Automaton)
    (place : Fin automaton.states.length) (column : Fin automaton.alphabet.length) :
    automaton.next? (automaton.states.get place) (automaton.alphabet.get column) =
      (automaton.table.get? place column).map automaton.states.get := by
  rw [table_get?]
  cases found : automaton.next? (automaton.states.get place) (automaton.alphabet.get column) with
  | none => rfl
  | some target =>
      obtain ⟨_, _, known⟩ := endpoints_mem_of_next? found
      obtain ⟨targetPlace, targetFound⟩ :
          ∃ found, automaton.states.finIdxOf? target = some found :=
        Option.isSome_iff_exists.mp (by simpa [List.isSome_finIdxOf?] using known)
      have name := (finIdxOf?_eq_some_iff_of_nodup automaton.states_nodup).mp targetFound
      rw [Option.bind_some, targetFound, Option.map_some, name]

end Automaton

end Acceptor
