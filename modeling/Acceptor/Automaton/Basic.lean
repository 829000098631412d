import Acceptor.Automaton.Table
import Acceptor.OrderedMap

/-!
Deterministic finite automata whose transition function may be partial.

`Automaton.build` makes an automaton of its parts if they fit together.  The transition
function is kept in two forms, as a map and as a table over places.
-/

namespace Acceptor

/-- A deterministic finite automaton. -/
structure Automaton where
  states : List String
  alphabet : List Char
  /-- The transition function, in the order in which its pairs were first given. -/
  transitions : OrderedMap (String × Char) String
  start : String
  accepting : List String
  states_nodup : states.Nodup
  alphabet_nodup : alphabet.Nodup
  alphabet_ne_nil : alphabet ≠ []
  start_mem : start ∈ states
  accepting_subset : ∀ state ∈ accepting, state ∈ states
  source_mem : ∀ entry ∈ transitions.entries, entry.1.1 ∈ states
  symbol_mem : ∀ entry ∈ transitions.entries, entry.1.2 ∈ alphabet
  target_mem : ∀ entry ∈ transitions.entries, entry.2 ∈ states
  /-- The transition function over the places of states and symbols. -/
  table : Table states.length alphabet.length :=
    Table.ofEntries states alphabet transitions.entries
  table_eq : table = Table.ofEntries states alphabet transitions.entries := by rfl

namespace Automaton

structure Parts where
  states : List String
  alphabet : List String
  transitions : OrderedMap (String × String) String
  start? : Option String
  accepting : List String
  deriving DecidableEq, Repr

inductive Fault where
  | noStates
  | noAlphabet
  | repeatedState
  | repeatedSymbol
  | longSymbol
  | unknownStart
  | unknownAccepting
  | unknownSource (state : String)
  | unknownSymbol (symbol : String)
  | unknownTarget (state : String)
  deriving DecidableEq, Repr

def Fault.message : Fault → String
  | .noStates => "states must not be empty"
  | .noAlphabet => "alphabet must not be empty"
  | .repeatedState => "states must be unique"
  | .repeatedSymbol => "alphabet symbols must be unique"
  | .longSymbol => "alphabet symbols must be single characters"
  | .unknownStart => "start must be in states"
  | .unknownAccepting => "accepting must be a subset of states"
  | .unknownSource state => "transition references unknown state: " ++ state
  | .unknownSymbol symbol => "transition references unknown symbol: " ++ symbol
  | .unknownTarget state => "transition has unknown next_state: " ++ state

def symbol? (text : String) : Option Char :=
  match text.toList with
  | [c] => some c
  | _ => none

@[simp] theorem symbol?_eq_some_iff {text : String} {symbol : Char} :
    symbol? text = some symbol ↔ text = String.singleton symbol := by
  unfold symbol?
  split
  next c shape =>
    rw [← String.toList_inj, shape]
    simp
  next other =>
    simp only [reduceCtorEq, false_iff]
    rintro rfl
    exact other symbol (by simp)

def symbols? : List String → Option (List Char)
  | [] => some []
  | text :: rest => do
      let symbol ← symbol? text
      let symbols ← symbols? rest
      some (symbol :: symbols)

theorem symbols?_eq_some_iff {texts : List String} {symbols : List Char} :
    symbols? texts = some symbols ↔ texts = symbols.map String.singleton := by
  induction texts generalizing symbols with
  | nil => cases symbols <;> simp [symbols?]
  | cons text rest inductionHypothesis =>
      cases symbols with
      | nil => simp [symbols?, Option.bind_eq_some_iff]
      | cons symbol symbols =>
          simp [symbols?, Option.bind_eq_some_iff, inductionHypothesis]

def readEntries :
    List ((String × String) × String) → List ((String × Char) × String)
  | [] => []
  | ((state, text), target) :: rest =>
      match symbol? text with
      | some symbol => ((state, symbol), target) :: readEntries rest
      | none => readEntries rest

theorem mem_readEntries_iff {entries : List ((String × String) × String)}
    {state target : String} {symbol : Char} :
    ((state, symbol), target) ∈ readEntries entries ↔
      ((state, String.singleton symbol), target) ∈ entries := by
  induction entries with
  | nil => simp [readEntries]
  | cons entry rest inductionHypothesis =>
      rcases entry with ⟨⟨first, text⟩, last⟩
      unfold readEntries
      split
      next found read =>
        rw [symbol?_eq_some_iff] at read
        simp [read, inductionHypothesis, String.singleton_inj]
      next unread =>
        have different : String.singleton symbol ≠ text := by
          rintro rfl
          simp [symbol?] at unread
        simp [inductionHypothesis, different]

theorem readEntries_keys_nodup {entries : List ((String × String) × String)}
    (distinct : (entries.map Prod.fst).Nodup) :
    ((readEntries entries).map Prod.fst).Nodup := by
  induction entries with
  | nil => simp [readEntries]
  | cons entry rest inductionHypothesis =>
      rcases entry with ⟨⟨first, text⟩, last⟩
      simp only [List.map_cons, List.nodup_cons] at distinct
      unfold readEntries
      split
      next symbol read =>
        rw [symbol?_eq_some_iff] at read
        simp only [List.map_cons, List.nodup_cons]
        refine ⟨fun membership => ?_, inductionHypothesis distinct.2⟩
        obtain ⟨⟨key, target⟩, present, rfl⟩ := List.mem_map.mp membership
        exact distinct.1 (List.mem_map.mpr ⟨_, mem_readEntries_iff.mp present, by rw [read]⟩)
      next => exact inductionHypothesis distinct.2

def Parts.endpointFault? (parts : Parts) : Option Fault :=
  parts.transitions.entries.findSome? fun ((state, symbol), target) =>
    if state ∉ parts.states then some (.unknownSource state)
    else if symbol ∉ parts.alphabet then some (.unknownSymbol symbol)
    else if target ∉ parts.states then some (.unknownTarget target)
    else none

theorem Parts.endpoints_mem {parts : Parts} (faultless : parts.endpointFault? = none)
    {state symbol target : String}
    (membership : ((state, symbol), target) ∈ parts.transitions.entries) :
    state ∈ parts.states ∧ symbol ∈ parts.alphabet ∧ target ∈ parts.states := by
  have checked := List.findSome?_eq_none_iff.mp faultless _ membership
  simp only at checked
  split at checked
  · contradiction
  · split at checked
    · contradiction
    · split at checked
      · contradiction
      · simp_all

def build (parts : Parts) : Except Fault Automaton :=
  if parts.states = [] then .error .noStates
  else if nonempty : parts.alphabet = [] then .error .noAlphabet
  else if distinctStates : ¬ parts.states.Nodup then .error .repeatedState
  else if distinctSymbols : ¬ parts.alphabet.Nodup then .error .repeatedSymbol
  else
    match read : symbols? parts.alphabet with
    | none => .error .longSymbol
    | some alphabet =>
        match parts.start? with
        | none => .error .unknownStart
        | some start =>
            if startKnown : start ∉ parts.states then .error .unknownStart
            else if acceptingKnown : ¬ ∀ state ∈ parts.accepting, state ∈ parts.states then
              .error .unknownAccepting
            else
              match faultless : parts.endpointFault? with
              | some fault => .error fault
              | none =>
                  have texts : parts.alphabet = alphabet.map String.singleton :=
                    symbols?_eq_some_iff.mp read
                  .ok {
                    states := parts.states
                    alphabet
                    transitions :=
                      ⟨readEntries parts.transitions.entries,
                        readEntries_keys_nodup parts.transitions.keys_nodup⟩
                    start
                    accepting := parts.accepting
                    states_nodup := Decidable.not_not.mp distinctStates
                    alphabet_nodup := by
                      rw [texts] at distinctSymbols
                      exact List.Pairwise.of_map _
                        (fun _ _ different equality => different (equality ▸ rfl))
                        (Decidable.not_not.mp distinctSymbols)
                    alphabet_ne_nil := by
                      rintro rfl
                      exact nonempty texts
                    start_mem := Decidable.not_not.mp startKnown
                    accepting_subset := Decidable.not_not.mp acceptingKnown
                    source_mem := fun ⟨⟨_, _⟩, _⟩ membership =>
                      (Parts.endpoints_mem faultless (mem_readEntries_iff.mp membership)).1
                    symbol_mem := fun ⟨⟨_, symbol⟩, _⟩ membership => by
                      have known :=
                        (Parts.endpoints_mem faultless
                          (mem_readEntries_iff.mp membership)).2.1
                      rw [texts] at known
                      obtain ⟨other, present, equality⟩ := List.mem_map.mp known
                      rw [String.singleton_inj] at equality
                      exact equality ▸ present
                    target_mem := fun ⟨⟨_, _⟩, _⟩ membership =>
                      (Parts.endpoints_mem faultless (mem_readEntries_iff.mp membership)).2.2 }

def next? (automaton : Automaton) (state : String) (symbol : Char) : Option String :=
  automaton.transitions.get? (state, symbol)

/-- The cells of the table, row by row, with the states and symbols they belong to. -/
def cells (automaton : Automaton) :
    List (List ((String × Char) × Option (Fin automaton.states.length))) :=
  (automaton.states.zip automaton.table.toList).map fun (state, row) =>
    (automaton.alphabet.zip row.toList).map fun (symbol, cell) => ((state, symbol), cell)

def missing (automaton : Automaton) : List (String × Char) :=
  automaton.cells.flatMap fun row => (row.filter fun cell => cell.2.isNone).map Prod.fst

def isComplete (automaton : Automaton) : Bool :=
  automaton.table.toList.all fun row => row.toList.all Option.isSome

def restartAt (automaton : Automaton) (state : String) (known : state ∈ automaton.states) :
    Automaton :=
  { automaton with start := state, start_mem := known }

/-- The accepting states in alphabetical order, each of them once. -/
def acceptingSorted (automaton : Automaton) : List String :=
  automaton.accepting.eraseDups.mergeSort

/-- The same automaton, except that the order of transitions, and the order and repetition
of accepting states, do not count. -/
def Same (left right : Automaton) : Prop :=
  left.states = right.states ∧ left.alphabet = right.alphabet ∧
    left.transitions.Agrees right.transitions ∧ left.start = right.start ∧
    ∀ state, state ∈ left.accepting ↔ state ∈ right.accepting

def same (left right : Automaton) : Bool :=
  left.states == right.states && left.alphabet == right.alphabet &&
    left.transitions.agrees right.transitions && left.start == right.start &&
    left.accepting.all (· ∈ right.accepting) && right.accepting.all (· ∈ left.accepting)

theorem same_iff {left right : Automaton} : left.same right = true ↔ left.Same right := by
  simp only [same, Same, Bool.and_eq_true, beq_iff_eq, OrderedMap.agrees_iff,
    List.all_eq_true, decide_eq_true_eq]
  constructor
  · rintro ⟨⟨⟨⟨⟨states, alphabet⟩, transitions⟩, start⟩, there⟩, back⟩
    exact ⟨states, alphabet, transitions, start, fun state => ⟨there state, back state⟩⟩
  · rintro ⟨states, alphabet, transitions, start, accepting⟩
    exact ⟨⟨⟨⟨⟨states, alphabet⟩, transitions⟩, start⟩,
      fun state => (accepting state).mp⟩, fun state => (accepting state).mpr⟩

def tableRows (automaton : Automaton) : List (List (Option Nat)) :=
  automaton.table.toList.map fun row => row.toList.map fun cell => cell.map Fin.val

end Automaton

end Acceptor
