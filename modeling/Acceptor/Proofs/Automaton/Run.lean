import Mathlib.Order.Bounds.Basic
import Acceptor.Proofs.Automaton.Numbers
import Acceptor.Proofs.Automaton.Transitions

/-!
Runs follow the transition function.

The place that a run keeps is always that of the state it is in, so each step over the table
is a step of the transition function, and the run stops just where the function is undefined.
-/

namespace Acceptor.Automaton

variable {automaton : Automaton} {state next last : String} {symbol : Char}
  {place : Fin automaton.states.length} {position length : Nat} {word rest : List Char}

/-! ## Steps -/

/-- The fault of a run that cannot go on from a state on a symbol. -/
def stopFault (automaton : Automaton) (state : String) (symbol : Char) (position : Nat) :
    RunFault :=
  if symbol ∈ automaton.alphabet then
    { kind := .noTransition, symbol := String.singleton symbol, position, state? := some state }
  else
    { kind := .unknownSymbol, symbol := String.singleton symbol, position }

@[simp]
theorem position_stopFault (position : Nat) :
    (automaton.stopFault state symbol position).position = position := by
  unfold stopFault
  split <;> rfl

theorem simulateFrom_nil :
    automaton.simulateFrom place position [] =
      { accepted := automaton.states.get place ∈ automaton.accepting
        trace := [automaton.states.get place] } := rfl

theorem simulateFrom_cons_of_none
    (stuck : automaton.next? (automaton.states.get place) symbol = none) :
    automaton.simulateFrom place position (symbol :: rest) =
      { accepted := false
        trace := [automaton.states.get place]
        fault? := some (automaton.stopFault (automaton.states.get place) symbol position) } := by
  rw [simulateFrom]
  cases known : automaton.alphabet.finIdxOf? symbol with
  | none =>
      have foreign : symbol ∉ automaton.alphabet := List.finIdxOf?_eq_none_iff.mp known
      simp only [stopFault, if_neg foreign]
      rfl
  | some column =>
      have name := (finIdxOf?_eq_some_iff_of_nodup automaton.alphabet_nodup).mp known
      have own : symbol ∈ automaton.alphabet := name ▸ List.getElem_mem column.isLt
      have empty : automaton.table.get? place column = none := by
        rw [← name, next?_eq_map_table_get?] at stuck
        exact Option.map_eq_none_iff.mp stuck
      simp only [empty, stopFault, if_pos own]
      rfl

theorem exists_simulateFrom_cons_of_some
    (moved : automaton.next? (automaton.states.get place) symbol = some next) :
    ∃ nextPlace : Fin automaton.states.length, automaton.states.get nextPlace = next ∧
      automaton.simulateFrom place position (symbol :: rest) =
        (automaton.simulateFrom nextPlace (position + 1) rest).startingAt
          (automaton.states.get place) := by
  obtain ⟨_, own, _⟩ := endpoints_mem_of_next? moved
  obtain ⟨column, known⟩ : ∃ column, automaton.alphabet.finIdxOf? symbol = some column :=
    Option.isSome_iff_exists.mp (by simpa [List.isSome_finIdxOf?] using own)
  have name := (finIdxOf?_eq_some_iff_of_nodup automaton.alphabet_nodup).mp known
  rw [← name, next?_eq_map_table_get?] at moved
  obtain ⟨nextPlace, filled, rfl⟩ := Option.map_eq_some_iff.mp moved
  refine ⟨nextPlace, rfl, ?_⟩
  rw [simulateFrom]
  simp only [known, filled]
  rfl

theorem states_startPlace (automaton : Automaton) :
    automaton.states.get automaton.startPlace = automaton.start :=
  List.getElem_idxOf _

/-! ## The longest prefix that can be followed -/

/-- The length of the longest prefix of a word along which the transition function, from a
state on, is defined. -/
def IsLongest (automaton : Automaton) (state : String) (word : List Char) (length : Nat) :
    Prop :=
  IsGreatest
    {count | count ≤ word.length ∧ ∃ last, Leads automaton state (word.take count) last} length

theorem isLongest_nil : IsLongest automaton state [] 0 :=
  ⟨⟨Nat.le_refl 0, state, .here⟩, fun _ longer => longer.1⟩

theorem isLongest_zero (stuck : automaton.next? state symbol = none) :
    IsLongest automaton state (symbol :: rest) 0 := by
  refine ⟨⟨Nat.zero_le _, state, .here⟩, ?_⟩
  rintro count ⟨_, last, leads⟩
  cases count with
  | zero => exact Nat.le_refl 0
  | succ count =>
      cases leads with
      | step moved _ =>
          rw [stuck] at moved
          contradiction

theorem IsLongest.succ (moved : automaton.next? state symbol = some next)
    (longest : IsLongest automaton next rest length) :
    IsLongest automaton state (symbol :: rest) (length + 1) := by
  obtain ⟨⟨bound, last, leads⟩, greatest⟩ := longest
  refine ⟨⟨Nat.succ_le_succ bound, last, .step moved leads⟩, ?_⟩
  rintro count ⟨countBound, other, otherLeads⟩
  cases count with
  | zero => exact Nat.zero_le _
  | succ count =>
      cases otherLeads with
      | step otherMoved otherRest =>
          rw [moved] at otherMoved
          cases otherMoved
          exact Nat.succ_le_succ (greatest ⟨Nat.le_of_succ_le_succ countBound, other, otherRest⟩)

/-! ## Verdicts -/

/-- The verdict is that of a run from a state on, which reads some number of symbols along
the transition function and stops there. -/
structure IsVerdict (automaton : Automaton) (state : String) (position : Nat)
    (word : List Char) (length : Nat) (verdict : Verdict) : Prop where
  trace_length : verdict.trace.length = length + 1
  trace_head : verdict.trace.head? = some state
  trace_step : ∀ index < length, ∃ source symbol target,
    verdict.trace[index]? = some source ∧ word[index]? = some symbol ∧
      verdict.trace[index + 1]? = some target ∧ automaton.next? source symbol = some target
  finished : length = word.length → verdict.fault? = none ∧
    (verdict.accepted = true ↔ ∃ last ∈ automaton.accepting, verdict.final? = some last)
  stopped : length < word.length → verdict.accepted = false ∧ ∃ last symbol,
    verdict.final? = some last ∧ word[length]? = some symbol ∧
      verdict.fault? = some (automaton.stopFault last symbol (position + length))

theorem isVerdict_nil : IsVerdict automaton state position [] 0
    { accepted := state ∈ automaton.accepting, trace := [state] } where
  trace_length := rfl
  trace_head := rfl
  trace_step := by simp
  finished := by simp [Verdict.final?]
  stopped := by simp

theorem isVerdict_stop : IsVerdict automaton state position (symbol :: rest) 0
    { accepted := false, trace := [state],
      fault? := some (automaton.stopFault state symbol position) } where
  trace_length := rfl
  trace_head := rfl
  trace_step := by simp
  finished := by simp
  stopped := fun _ => ⟨rfl, state, symbol, rfl, rfl, rfl⟩

theorem final?_startingAt {verdict : Verdict} (nonempty : verdict.trace ≠ []) :
    (verdict.startingAt state).final? = verdict.final? := by
  obtain ⟨first, others, shape⟩ := List.exists_cons_of_ne_nil nonempty
  simp [Verdict.final?, Verdict.startingAt, shape]

theorem IsVerdict.step {verdict : Verdict} (moved : automaton.next? state symbol = some next)
    (isVerdict : IsVerdict automaton next (position + 1) rest length verdict) :
    IsVerdict automaton state position (symbol :: rest) (length + 1)
      (verdict.startingAt state) := by
  have final : (verdict.startingAt state).final? = verdict.final? := by
    apply final?_startingAt
    apply List.ne_nil_of_length_pos
    rw [isVerdict.trace_length]
    exact Nat.succ_pos length
  constructor
  · simp [Verdict.startingAt, isVerdict.trace_length]
  · rfl
  · intro index bound
    cases index with
    | zero =>
        have head : verdict.trace[0]? = some next := by
          rw [← List.head?_eq_getElem?]
          exact isVerdict.trace_head
        exact ⟨state, symbol, next, rfl, rfl, head, moved⟩
    | succ index => exact isVerdict.trace_step index (Nat.lt_of_succ_lt_succ bound)
  · intro whole
    rw [final]
    exact isVerdict.finished (Nat.succ.inj whole)
  · intro shorter
    have sum : position + (length + 1) = position + 1 + length := by omega
    rw [final, sum]
    exact isVerdict.stopped (Nat.lt_of_succ_lt_succ shorter)

theorem exists_isVerdict_simulateFrom (automaton : Automaton) (word : List Char)
    (place : Fin automaton.states.length) (position : Nat) :
    ∃ length, IsLongest automaton (automaton.states.get place) word length ∧
      IsVerdict automaton (automaton.states.get place) position word length
        (automaton.simulateFrom place position word) := by
  induction word generalizing place position with
  | nil =>
      rw [simulateFrom_nil]
      exact ⟨0, isLongest_nil, isVerdict_nil⟩
  | cons symbol rest inductionHypothesis =>
      cases moved : automaton.next? (automaton.states.get place) symbol with
      | none =>
          rw [simulateFrom_cons_of_none moved]
          exact ⟨0, isLongest_zero moved, isVerdict_stop⟩
      | some next =>
          obtain ⟨nextPlace, rfl, run⟩ := exists_simulateFrom_cons_of_some moved
          obtain ⟨length, longest, isVerdict⟩ := inductionHypothesis nextPlace (position + 1)
          rw [run]
          exact ⟨length + 1, longest.succ moved, isVerdict.step moved⟩

/-- A run reads the longest prefix that the transition function can be followed along, and
uses only indices that are in range on its way. -/
theorem exists_isVerdict_simulate (automaton : Automaton) (line : String) :
    ∃ length, IsLongest automaton automaton.start line.toList length ∧
      IsVerdict automaton automaton.start 0 line.toList length (automaton.simulate line) ∧
      ∃ accesses, (∀ access ∈ accesses, access.InRange) ∧
        automaton.simulateNumbers line [] = some (automaton.simulate line, accesses) := by
  obtain ⟨length, longest, isVerdict⟩ :=
    automaton.exists_isVerdict_simulateFrom line.toList automaton.startPlace 0
  rw [states_startPlace] at longest isVerdict
  exact ⟨length, longest, isVerdict, automaton.exists_accesses_simulateNumbers line⟩

end Acceptor.Automaton
