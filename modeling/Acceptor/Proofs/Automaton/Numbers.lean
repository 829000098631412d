import Acceptor.Automaton.Run

/-!
Runs over plain numbers.

Here the table is one of integers, with `-1` where there is no transition.  An index may be
any integer: a negative one counts from the end, and one out of range ends the run without a
verdict.  Each index that is used is written down.

`exists_accesses_simulateNumbers` says that the verdict is always that of `simulate`, and
that no index is ever negative or out of range.
-/

namespace Acceptor

/-- The use of an index on a sequence of some size. -/
structure Access where
  index : Int
  size : Nat
  deriving DecidableEq, Repr

def Access.InRange (access : Access) : Prop :=
  0 ≤ access.index ∧ access.index < access.size

/-- A computation that can fail on an index, and writes down the indices that it uses. -/
abbrev Fetching (Result : Type) :=
  StateT (List Access) Option Result

def fetch {Item : Type} (items : List Item) (index : Int) : Fetching Item := fun accesses =>
  let place := if index < 0 then items.length + index else index
  if place < 0 then none
  else items[place.toNat]?.map fun item => (item, accesses ++ [⟨index, items.length⟩])

theorem fetch_of_getElem? {Item : Type} {items : List Item} {place : Nat} {item : Item}
    (present : items[place]? = some item) (accesses : List Access) :
    fetch items place accesses = some (item, accesses ++ [⟨place, items.length⟩]) := by
  have notNegative : ¬ (place : Int) < 0 := by omega
  simp [fetch, notNegative, present]

theorem bind_of_fetched {Item Result : Type} {step : Fetching Item}
    {next : Item → Fetching Result} {item : Item} {before after : List Access}
    (fetched : step before = some (item, after)) :
    (step >>= next) before = next item after := by
  simp [bind, StateT.bind, fetched]

theorem inRange_of_getElem? {Item : Type} {items : List Item} {place : Nat} {item : Item}
    (present : items[place]? = some item) : Access.InRange ⟨place, items.length⟩ := by
  obtain ⟨bound, _⟩ := List.getElem?_eq_some_iff.mp present
  constructor
  · exact Int.natCast_nonneg place
  · exact Int.ofNat_lt.mpr bound

namespace Automaton

def sentinel : Int := -1

def cellNumber {height : Nat} : Option (Fin height) → Int
  | none => sentinel
  | some place => (place : Nat)

def numberRows (automaton : Automaton) : List (List Int) :=
  automaton.table.toList.map fun row => row.toList.map cellNumber

/-- Reads the rest of a line at the number of a state, with the trace so far. -/
def runNumbers (automaton : Automaton) (current : Int) (trace : List String)
    (position : Nat) : List Char → Fetching Verdict
  | [] => do
      let state ← fetch automaton.states current
      return { accepted := state ∈ automaton.accepting, trace }
  | symbol :: rest =>
      match automaton.alphabet.idxOf? symbol with
      | none =>
          return {
            accepted := false
            trace
            fault? := some {
              kind := .unknownSymbol, symbol := String.singleton symbol, position } }
      | some column => do
          let row ← fetch automaton.numberRows current
          let next ← fetch row column
          if next = sentinel then
            let state ← fetch automaton.states current
            return {
              accepted := false
              trace
              fault? := some {
                kind := .noTransition
                symbol := String.singleton symbol
                position
                state? := some state } }
          else
            let state ← fetch automaton.states next
            automaton.runNumbers next (trace ++ [state]) (position + 1) rest

def simulateNumbers (automaton : Automaton) (line : String) : Fetching Verdict :=
  automaton.runNumbers (automaton.states.idxOf automaton.start) [automaton.start] 0
    line.toList

/-! ## Agreement -/

theorem cellNumber_some_ne_sentinel {height : Nat} (place : Fin height) :
    cellNumber (some place) ≠ sentinel := by
  change ((place : Nat) : Int) ≠ -1
  omega

theorem getElem?_toList_of_fin {Item : Type} {size : Nat} (items : Vector Item size)
    (place : Fin size) : items.toList[(place : Nat)]? = some (items.get place) := by
  rw [Vector.getElem?_toList]
  exact Vector.getElem?_eq_getElem place.isLt

theorem getElem?_numberRows (automaton : Automaton) (place : Fin automaton.states.length) :
    automaton.numberRows[(place : Nat)]? =
      some ((automaton.table.get place).toList.map cellNumber) := by
  rw [numberRows, List.getElem?_map, getElem?_toList_of_fin, Option.map_some]

theorem getElem?_numberRow (automaton : Automaton) (place : Fin automaton.states.length)
    (column : Fin automaton.alphabet.length) :
    ((automaton.table.get place).toList.map cellNumber)[(column : Nat)]? =
      some (cellNumber (automaton.table.get? place column)) := by
  rw [List.getElem?_map, getElem?_toList_of_fin, Option.map_some]
  rfl

theorem getElem?_states (automaton : Automaton) (place : Fin automaton.states.length) :
    automaton.states[(place : Nat)]? = some (automaton.states.get place) :=
  List.getElem?_eq_getElem place.isLt

/-- The invariant of the loop: the number is the place of the last state of the trace. -/
theorem exists_accesses_runNumbers (automaton : Automaton) (word : List Char)
    (place : Fin automaton.states.length) (visited : List String) (position : Nat)
    (accesses : List Access) :
    ∃ more, (∀ access ∈ more, access.InRange) ∧
      automaton.runNumbers (place : Nat) (visited ++ [automaton.states.get place]) position word
          accesses =
        some ({ automaton.simulateFrom place position word with
          trace := visited ++ (automaton.simulateFrom place position word).trace },
            accesses ++ more) := by
  have stateFetched := fetch_of_getElem? (automaton.getElem?_states place)
  have stateInRange := inRange_of_getElem? (automaton.getElem?_states place)
  induction word generalizing place visited position accesses with
  | nil =>
      refine ⟨[⟨place, automaton.states.length⟩], by simpa using stateInRange, ?_⟩
      rw [runNumbers, bind_of_fetched (stateFetched accesses)]
      rfl
  | cons symbol rest inductionHypothesis =>
      rw [runNumbers, simulateFrom, List.idxOf?_eq_map_finIdxOf?_val]
      cases known : automaton.alphabet.finIdxOf? symbol with
      | none => exact ⟨[], by simp, by simp; rfl⟩
      | some column =>
          have rowFetched := fetch_of_getElem? (automaton.getElem?_numberRows place)
          have rowInRange := inRange_of_getElem? (automaton.getElem?_numberRows place)
          have cellFetched := fetch_of_getElem? (automaton.getElem?_numberRow place column)
          have cellInRange := inRange_of_getElem? (automaton.getElem?_numberRow place column)
          simp only [Option.map_some]
          rw [bind_of_fetched (rowFetched accesses), bind_of_fetched (cellFetched _)]
          cases cell : automaton.table.get? place column with
          | none =>
              have missing : cellNumber (none : Option (Fin automaton.states.length)) =
                sentinel := rfl
              rw [if_pos missing, bind_of_fetched (stateFetched _)]
              refine ⟨[_, _, _], ?_, by simp only [List.append_assoc]; rfl⟩
              simp only [List.forall_mem_cons, List.not_mem_nil, false_implies, implies_true,
                and_true]
              exact ⟨rowInRange, cellInRange, stateInRange⟩
          | some next =>
              -- The place just read is that of the next state, so the invariant is kept.
              have nextFetched := fetch_of_getElem? (automaton.getElem?_states next)
              have nextInRange := inRange_of_getElem? (automaton.getElem?_states next)
              have number : cellNumber (some next) = (next : Nat) := rfl
              rw [if_neg (cellNumber_some_ne_sentinel next), number,
                bind_of_fetched (nextFetched _)]
              obtain ⟨more, inRange, run⟩ := inductionHypothesis next
                (visited ++ [automaton.states.get place]) (position + 1) _ nextFetched nextInRange
              rw [run]
              refine ⟨[_, _, _] ++ more, ?_, by
                simp only [List.append_assoc, List.singleton_append]; rfl⟩
              simp only [List.cons_append, List.nil_append, List.forall_mem_cons]
              exact ⟨rowInRange, cellInRange, nextInRange, inRange⟩

/-- The run over numbers never fails, uses no index out of range, and comes to the verdict
of the run over places. -/
theorem exists_accesses_simulateNumbers (automaton : Automaton) (line : String) :
    ∃ accesses, (∀ access ∈ accesses, access.InRange) ∧
      automaton.simulateNumbers line [] = some (automaton.simulate line, accesses) := by
  have named : automaton.states.get automaton.startPlace = automaton.start :=
    List.getElem_idxOf _
  have run := automaton.exists_accesses_runNumbers line.toList automaton.startPlace [] 0 []
  rw [named] at run
  exact run

end Automaton

end Acceptor
