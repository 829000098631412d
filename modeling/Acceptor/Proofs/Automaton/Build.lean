import Acceptor.Automaton.Basic

/-!
Building automata: parts that fit together make an automaton, and the automaton consists of
just these parts.
-/

namespace Acceptor

namespace OrderedMap

variable {Key Value : Type} [DecidableEq Key]

/-- Of the entries inserted with one key the last counts. -/
theorem get?_insertAll (map : OrderedMap Key Value) (entries : List (Key × Value))
    (key : Key) :
    (map.insertAll entries).get? key =
      ((entries.reverse.find? (·.1 = key)).map Prod.snd).or (map.get? key) := by
  induction entries generalizing map with
  | nil => rfl
  | cons entry rest inductionHypothesis =>
      have step : map.insertAll (entry :: rest) =
          (map.insert entry.1 entry.2).insertAll rest := rfl
      rw [step, inductionHypothesis, get?_insert, List.reverse_cons, List.find?_append]
      cases rest.reverse.find? (·.1 = key) with
      | some found => rfl
      | none => by_cases same : entry.1 = key <;> simp [same]

theorem get?_ofList_eq_some_iff {entries : List (Key × Value)}
    (consistent : ∀ entry ∈ entries, ∀ other ∈ entries, entry.1 = other.1 →
      entry.2 = other.2) {key : Key} {value : Value} :
    (ofList entries).get? key = some value ↔ (key, value) ∈ entries := by
  rw [ofList, get?_insertAll, get?_empty, Option.or_none, Option.map_eq_some_iff]
  constructor
  · rintro ⟨⟨other, last⟩, search, rfl⟩
    have sameKey : other = key := by simpa using List.find?_some search
    have membership := List.mem_of_find?_eq_some search
    rw [List.mem_reverse, sameKey] at membership
    exact membership
  · intro membership
    cases search : entries.reverse.find? (·.1 = key) with
    | none =>
        have absent := List.find?_eq_none.mp search (key, value) (by simpa using membership)
        simp at absent
    | some entry =>
        have sameKey : entry.1 = key := by simpa using List.find?_some search
        have present : entry ∈ entries := by simpa using List.mem_of_find?_eq_some search
        exact ⟨entry, rfl, consistent entry present _ membership sameKey⟩

end OrderedMap

namespace Automaton

/-- All that is known of parts that an automaton was built of. -/
theorem inversion_of_build {parts : Parts} {automaton : Automaton}
    (built : build parts = .ok automaton) :
    (parts.states = automaton.states ∧
      parts.alphabet = automaton.alphabet.map String.singleton ∧
      parts.start? = some automaton.start ∧ parts.accepting = automaton.accepting ∧
      readEntries parts.transitions.entries = automaton.transitions.entries) ∧
    parts.endpointFault? = none := by
  unfold build at built
  split at built
  · contradiction
  split at built
  · contradiction
  split at built
  · contradiction
  split at built
  · contradiction
  split at built
  · contradiction
  next alphabet read =>
    split at built
    · contradiction
    next start given =>
      split at built
      · contradiction
      split at built
      · contradiction
      split at built
      · contradiction
      next faultless =>
        cases built
        exact ⟨⟨rfl, symbols?_eq_some_iff.mp read, given, rfl, rfl⟩, faultless⟩

/-- The parts that an automaton was built of are the automaton's own. -/
theorem parts_of_build {parts : Parts} {automaton : Automaton}
    (built : build parts = .ok automaton) :
    parts.states = automaton.states ∧
      parts.alphabet = automaton.alphabet.map String.singleton ∧
      parts.start? = some automaton.start ∧ parts.accepting = automaton.accepting ∧
      readEntries parts.transitions.entries = automaton.transitions.entries :=
  (inversion_of_build built).1

structure Parts.Fit (parts : Parts) : Prop where
  states_ne_nil : parts.states ≠ []
  alphabet_ne_nil : parts.alphabet ≠ []
  states_nodup : parts.states.Nodup
  alphabet_nodup : parts.alphabet.Nodup
  single : ∀ symbol ∈ parts.alphabet, ∃ c, symbol = String.singleton c
  start_mem : ∃ start ∈ parts.states, parts.start? = some start
  accepting_subset : ∀ state ∈ parts.accepting, state ∈ parts.states
  endpoints_mem : ∀ entry ∈ parts.transitions.entries,
    entry.1.1 ∈ parts.states ∧ entry.1.2 ∈ parts.alphabet ∧ entry.2 ∈ parts.states

theorem exists_symbols? {texts : List String}
    (single : ∀ text ∈ texts, ∃ c, text = String.singleton c) :
    ∃ symbols, symbols? texts = some symbols := by
  induction texts with
  | nil => exact ⟨[], rfl⟩
  | cons text rest inductionHypothesis =>
      obtain ⟨c, equality⟩ := single text List.mem_cons_self
      obtain ⟨symbols, read⟩ := inductionHypothesis fun other membership =>
        single other (List.mem_cons_of_mem text membership)
      refine ⟨c :: symbols, symbols?_eq_some_iff.mpr ?_⟩
      rw [List.map_cons, equality, symbols?_eq_some_iff.mp read]

theorem Parts.Fit.exists_build {parts : Parts} (fit : parts.Fit) :
    ∃ automaton, build parts = .ok automaton := by
  obtain ⟨symbols, read⟩ := exists_symbols? fit.single
  obtain ⟨start, declared, given⟩ := fit.start_mem
  have faultless : parts.endpointFault? = none := by
    refine List.findSome?_eq_none_iff.mpr fun entry membership => ?_
    obtain ⟨source, symbol, target⟩ := fit.endpoints_mem entry membership
    simp [source, symbol, target]
  unfold build
  rw [if_neg fit.states_ne_nil, dif_neg fit.alphabet_ne_nil,
    dif_neg (Decidable.not_not.mpr fit.states_nodup),
    dif_neg (Decidable.not_not.mpr fit.alphabet_nodup)]
  split
  next unread =>
    rw [read] at unread
    contradiction
  next =>
    split
    next absent =>
      rw [given] at absent
      contradiction
    next other present =>
      rw [given] at present
      cases present
      rw [dif_neg (Decidable.not_not.mpr declared),
        dif_neg (Decidable.not_not.mpr fit.accepting_subset)]
      split
      next fault found =>
        rw [faultless] at found
        contradiction
      next => exact ⟨_, rfl⟩

end Automaton

end Acceptor
