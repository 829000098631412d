import Acceptor.Proofs.Automaton.Build
import Acceptor.Proofs.Automaton.Missing
import Acceptor.Proofs.Automaton.Numbers
import Acceptor.Proofs.Result

/-!
What automata are built of, and what their tables show.

Parts make an automaton exactly if they fit together.  Each cell of its table holds the number of
the target or the sentinel, so that among automata with the same states, symbols, start and
accepting states the tables tell which are the same.
-/

namespace Acceptor.Automaton

/-! ## Parts -/

theorem fit_of_build {parts : Parts} {automaton : Automaton}
    (built : build parts = .ok automaton) : parts.Fit := by
  obtain ⟨⟨states, alphabet, start, accepting, _⟩, faultless⟩ := inversion_of_build built
  constructor
  · exact states ▸ List.ne_nil_of_mem automaton.start_mem
  · simpa [alphabet] using automaton.alphabet_ne_nil
  · exact states ▸ automaton.states_nodup
  · exact alphabet ▸ nodup_map_singleton automaton.alphabet_nodup
  · intro symbol membership
    rw [alphabet] at membership
    obtain ⟨c, _, same⟩ := List.mem_map.mp membership
    exact ⟨c, same.symm⟩
  · exact ⟨automaton.start, states ▸ automaton.start_mem, start⟩
  · rw [states, accepting]
    exact automaton.accepting_subset
  · rintro ⟨⟨_, _⟩, _⟩ membership
    exact Parts.endpoints_mem faultless membership

structure IsMadeOf (automaton : Automaton) (parts : Parts) : Prop where
  states_eq : automaton.states = parts.states
  alphabet_eq : automaton.alphabet.map String.singleton = parts.alphabet
  start_eq : some automaton.start = parts.start?
  accepting_eq : automaton.accepting = parts.accepting
  next?_eq : ∀ state symbol, automaton.next? state symbol =
    parts.transitions.get? (state, String.singleton symbol)

theorem isMadeOf_of_build {parts : Parts} {automaton : Automaton}
    (built : build parts = .ok automaton) : automaton.IsMadeOf parts := by
  obtain ⟨states, alphabet, start, accepting, entries⟩ := parts_of_build built
  refine ⟨states.symm, alphabet.symm, start.symm, accepting.symm, fun state symbol => ?_⟩
  refine Option.ext fun target => ?_
  rw [next?, OrderedMap.get?_eq_some_iff, OrderedMap.get?_eq_some_iff, ← entries,
    mem_readEntries_iff]

/-! ## Numbers in the table -/

/-- The number of a target among the states, or the sentinel if there is none. -/
def targetNumber (states : List String) : Option String → Int
  | none => sentinel
  | some target => states.idxOf target

theorem targetNumber_eq_sentinel_iff {states : List String} {target? : Option String} :
    targetNumber states target? = sentinel ↔ target? = none := by
  cases target? with
  | none => simp [targetNumber]
  | some target =>
      have different : (states.idxOf target : Int) ≠ sentinel := by
        change (states.idxOf target : Int) ≠ -1
        omega
      simp [targetNumber, different]

theorem targetNumber_eq_natCast_iff {states : List String} (distinct : states.Nodup)
    {target? : Option String} (known : ∀ target ∈ target?, target ∈ states) {place : Nat} :
    targetNumber states target? = place ↔
      ∃ target, states[place]? = some target ∧ target? = some target := by
  cases target? with
  | none =>
      have negative : sentinel < 0 := by decide
      simp only [targetNumber, reduceCtorEq, and_false, exists_false, iff_false]
      omega
  | some target =>
      simp only [targetNumber, Int.ofNat_inj, Option.some.injEq]
      constructor
      · rintro rfl
        exact ⟨target, List.getElem?_idxOf (known target rfl), rfl⟩
      · rintro ⟨_, listed, rfl⟩
        obtain ⟨_, rfl⟩ := List.getElem?_eq_some_iff.mp listed
        exact distinct.idxOf_getElem _ _

theorem eq_of_targetNumber_eq {states : List String} {target? other? : Option String}
    (known : ∀ target ∈ target?, target ∈ states)
    (same : targetNumber states target? = targetNumber states other?) : target? = other? := by
  cases target? with
  | none => exact (targetNumber_eq_sentinel_iff.mp same.symm).symm
  | some target =>
      cases other? with
      | none => exact targetNumber_eq_sentinel_iff.mp same
      | some other =>
          exact congrArg some ((List.idxOf_inj (known target rfl)).mp (Int.ofNat_inj.mp same))

variable {automaton left right : Automaton}

theorem mem_states_of_mem_next? {state : String} {symbol : Char} :
    ∀ target ∈ automaton.next? state symbol, target ∈ automaton.states :=
  fun _ moved => (endpoints_mem_of_next? moved).2.2

theorem cellNumber_bind_finIdxOf? (state : String) (symbol : Char) :
    cellNumber ((automaton.next? state symbol).bind automaton.states.finIdxOf?) =
      targetNumber automaton.states (automaton.next? state symbol) := by
  cases moved : automaton.next? state symbol with
  | none => rfl
  | some target =>
      have known := mem_states_of_mem_next? target moved
      obtain ⟨place, found⟩ : ∃ place, automaton.states.finIdxOf? target = some place :=
        Option.isSome_iff_exists.mp (by simpa [List.isSome_finIdxOf?] using known)
      have named := (finIdxOf?_eq_some_iff_of_nodup automaton.states_nodup).mp found
      rw [Option.bind_some, found, cellNumber, targetNumber, ← named]
      exact congrArg Nat.cast (automaton.states_nodup.idxOf_getElem _ _).symm

/-- Row by row, the table holds the numbers of the targets. -/
theorem numberRows_eq (automaton : Automaton) :
    automaton.numberRows = automaton.states.map fun state =>
      automaton.alphabet.map fun symbol =>
        targetNumber automaton.states (automaton.next? state symbol) := by
  have rows : automaton.numberRows =
      (automaton.table.toList.map Vector.toList).map (·.map cellNumber) := by
    rw [numberRows, List.map_map]
    rfl
  rw [rows, ← map_map_snd_cells, cells_eq, List.map_map, List.map_map]
  refine List.map_congr_left fun state _ => ?_
  simp only [Function.comp_apply, List.map_map]
  exact List.map_congr_left fun symbol _ => cellNumber_bind_finIdxOf? state symbol

def cell? (automaton : Automaton) (row column : Nat) : Option Int :=
  automaton.numberRows[row]?.bind (·[column]?)

theorem cell?_eq {row column : Nat} {state : String} {symbol : Char}
    (stateListed : automaton.states[row]? = some state)
    (symbolListed : automaton.alphabet[column]? = some symbol) :
    automaton.cell? row column =
      some (targetNumber automaton.states (automaton.next? state symbol)) := by
  simp [cell?, numberRows_eq, stateListed, symbolListed]

/-- The table shows what the transition function is. -/
structure IsFaithful (automaton : Automaton) : Prop where
  height : automaton.numberRows.length = automaton.states.length
  width : ∀ row ∈ automaton.numberRows, row.length = automaton.alphabet.length
  cell_eq_place_iff : ∀ row column state symbol, automaton.states[row]? = some state →
    automaton.alphabet[column]? = some symbol → ∀ place : Nat,
      automaton.cell? row column = some (place : Int) ↔
        ∃ target, automaton.states[place]? = some target ∧
          automaton.next? state symbol = some target
  cell_eq_sentinel_iff : ∀ row column state symbol, automaton.states[row]? = some state →
    automaton.alphabet[column]? = some symbol →
      (automaton.cell? row column = some sentinel ↔ automaton.next? state symbol = none)
  missing_eq : automaton.missing = automaton.states.flatMap fun state =>
    (automaton.alphabet.filter fun symbol => automaton.next? state symbol = none).map (state, ·)
  isComplete_iff : automaton.isComplete = true ↔ automaton.missing = []

theorem isFaithful (automaton : Automaton) : automaton.IsFaithful where
  height := by rw [numberRows_eq, List.length_map]
  width row isRow := by
    rw [numberRows_eq] at isRow
    obtain ⟨_, _, rfl⟩ := List.mem_map.mp isRow
    exact List.length_map _
  cell_eq_place_iff row column state symbol stateListed symbolListed place := by
    rw [cell?_eq stateListed symbolListed, Option.some.injEq]
    exact targetNumber_eq_natCast_iff automaton.states_nodup mem_states_of_mem_next?
  cell_eq_sentinel_iff row column state symbol stateListed symbolListed := by
    rw [cell?_eq stateListed symbolListed, Option.some.injEq]
    exact targetNumber_eq_sentinel_iff
  missing_eq := automaton.missing_eq
  isComplete_iff := isComplete_eq_true_iff

/-! ## Tables that tell automata apart -/

/-- The automata differ at most in their transitions. -/
structure AreAlike (left right : Automaton) : Prop where
  states_eq : left.states = right.states
  alphabet_eq : left.alphabet = right.alphabet
  start_eq : left.start = right.start
  mem_accepting_iff : ∀ state, state ∈ left.accepting ↔ state ∈ right.accepting

theorem AreAlike.next?_eq_of_numberRows_eq (alike : left.AreAlike right)
    (rows : left.numberRows = right.numberRows) (state : String) (symbol : Char) :
    left.next? state symbol = right.next? state symbol := by
  rw [numberRows_eq, numberRows_eq, ← alike.states_eq, ← alike.alphabet_eq,
    List.map_inj_left] at rows
  by_cases known : state ∈ left.states ∧ symbol ∈ left.alphabet
  · have cells := List.map_inj_left.mp (rows state known.1) symbol known.2
    exact eq_of_targetNumber_eq mem_states_of_mem_next? cells
  · -- Beyond the table neither function is defined.
    have undefinedLeft : left.next? state symbol = none :=
      Option.eq_none_iff_forall_ne_some.mpr fun target moved =>
        known ⟨(endpoints_mem_of_next? moved).1, (endpoints_mem_of_next? moved).2.1⟩
    have undefinedRight : right.next? state symbol = none :=
      Option.eq_none_iff_forall_ne_some.mpr fun target moved =>
        known ⟨alike.states_eq ▸ (endpoints_mem_of_next? moved).1,
          alike.alphabet_eq ▸ (endpoints_mem_of_next? moved).2.1⟩
    rw [undefinedLeft, undefinedRight]

theorem AreAlike.numberRows_eq_of_agrees (alike : left.AreAlike right)
    (transitions : left.transitions.Agrees right.transitions) :
    left.numberRows = right.numberRows := by
  have moves (state : String) (symbol : Char) :
      left.next? state symbol = right.next? state symbol := transitions (state, symbol)
  simp only [numberRows_eq, alike.states_eq, alike.alphabet_eq, moves]

theorem AreAlike.same_iff_numberRows_eq (alike : left.AreAlike right) :
    left.same right = true ↔ left.numberRows = right.numberRows := by
  rw [same_iff]
  constructor
  · rintro ⟨_, _, transitions, _, _⟩
    exact alike.numberRows_eq_of_agrees transitions
  · intro rows
    refine ⟨alike.states_eq, alike.alphabet_eq, ?_, alike.start_eq, alike.mem_accepting_iff⟩
    rintro ⟨state, symbol⟩
    exact alike.next?_eq_of_numberRows_eq rows state symbol

/-- Parts make an automaton exactly if they fit together, its table shows its transition function,
and the tables of automata that differ at most in their transitions tell whether they do. -/
theorem build_iff_fit_and_isFaithful_and_same_iff :
    (∀ parts, (∃ automaton, build parts = .ok automaton) ↔ parts.Fit) ∧
      (∀ parts automaton, build parts = .ok automaton →
        automaton.IsMadeOf parts ∧ automaton.IsFaithful) ∧
      ∀ left right : Automaton, left.AreAlike right →
        (left.same right = true ↔ left.numberRows = right.numberRows) := by
  refine ⟨fun parts => ⟨?_, fun fit => fit.exists_build⟩, fun parts automaton built => ?_,
    fun left right alike => alike.same_iff_numberRows_eq⟩
  · rintro ⟨automaton, built⟩
    exact fit_of_build built
  · exact ⟨isMadeOf_of_build built, automaton.isFaithful⟩

/-- Parts of an automaton with two states that lead to each other. -/
def shuttleParts (moves : List ((String × String) × String)) : Parts where
  states := ["s", "t"]
  alphabet := ["a", "b"]
  transitions := .ofList moves
  start? := some "s"
  accepting := ["t"]

def shuttleMoves : List ((String × String) × String) :=
  [(("s", "a"), "t"), (("t", "b"), "s")]

theorem IsMadeOf.areAlike_shuttle {moves others : List ((String × String) × String)}
    (made : left.IsMadeOf (shuttleParts moves))
    (otherMade : right.IsMadeOf (shuttleParts others)) : left.AreAlike right where
  states_eq := made.states_eq.trans otherMade.states_eq.symm
  alphabet_eq := (List.map_inj_right fun _ _ => String.singleton_inj.mp).mp
    (made.alphabet_eq.trans otherMade.alphabet_eq.symm)
  start_eq := Option.some.inj (made.start_eq.trans otherMade.start_eq.symm)
  mem_accepting_iff state := by rw [made.accepting_eq, otherMade.accepting_eq]; rfl

theorem same_shuttle :
    ∃ left right, build (shuttleParts shuttleMoves) = .ok left ∧
      build (shuttleParts shuttleMoves.reverse) = .ok right ∧ left.AreAlike right ∧
      left.transitions.entries ≠ right.transitions.entries ∧
      left.numberRows = [[1, sentinel], [sentinel, 0]] ∧ left.same right = true := by
  have outcome :
      (build (shuttleParts shuttleMoves)).map
        (fun automaton => (automaton.transitions.entries, automaton.numberRows)) =
          .ok ([(("s", 'a'), "t"), (("t", 'b'), "s")], [[1, sentinel], [sentinel, 0]]) := by
    decide
  have reversedOutcome :
      (build (shuttleParts shuttleMoves.reverse)).map
        (fun automaton => (automaton.transitions.entries, automaton.numberRows)) =
          .ok ([(("t", 'b'), "s"), (("s", 'a'), "t")], [[1, sentinel], [sentinel, 0]]) := by
    decide
  obtain ⟨left, built, shape⟩ := Except.map_eq_ok_iff.mp outcome
  obtain ⟨right, reversedBuilt, reversedShape⟩ := Except.map_eq_ok_iff.mp reversedOutcome
  obtain ⟨entries, rows⟩ := Prod.mk.inj shape
  obtain ⟨reversedEntries, reversedRows⟩ := Prod.mk.inj reversedShape
  obtain ⟨_, makes, sameIff⟩ := build_iff_fit_and_isFaithful_and_same_iff
  have alike := (makes _ _ built).1.areAlike_shuttle (makes _ _ reversedBuilt).1
  refine ⟨left, right, built, reversedBuilt, alike, ?_, rows, (sameIff left right alike).mpr ?_⟩
  · rw [entries, reversedEntries]
    decide
  · rw [rows, reversedRows]

end Acceptor.Automaton
