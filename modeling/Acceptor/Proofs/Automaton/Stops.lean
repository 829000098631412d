import Acceptor.Proofs.Automaton.Words

/-!
Where runs get stuck: at the states that words lead to and that cannot be left on the next
symbol.
-/

namespace Acceptor

namespace RunFault

/-- The text says which symbol stopped the run and where, and in which state if it has a state to
stop in. -/
inductive IsToldBy : RunFault → String → Prop where
  | unknownSymbol {symbol : String} {position : Int} {state? : Option String} :
      IsToldBy ⟨.unknownSymbol, symbol, position, state?⟩
        ("symbol " ++ Text.quote symbol ++ " at position " ++ toString position ++
          " is not in the alphabet")
  | noTransition {state symbol : String} {position : Int} :
      IsToldBy ⟨.noTransition, symbol, position, some state⟩
        ("no transition from state " ++ Text.quote state ++ " on symbol " ++
          Text.quote symbol ++ " (position " ++ toString position ++ ")")
  | noState {symbol : String} {position : Int} :
      IsToldBy ⟨.noTransition, symbol, position, none⟩
        ("no transition from state None on symbol " ++ Text.quote symbol ++ " (position " ++
          toString position ++ ")")

theorem isToldBy_iff {fault : RunFault} {text : String} :
    fault.IsToldBy text ↔ text = fault.message := by
  constructor
  · intro told
    cases told <;> rfl
  · rintro rfl
    obtain ⟨kind, symbol, position, state?⟩ := fault
    cases kind with
    | unknownSymbol => exact .unknownSymbol
    | noTransition =>
        cases state? with
        | none => exact .noState
        | some state => exact .noTransition

end RunFault

namespace Automaton

variable {automaton : Automaton} {state last : String} {place : Fin automaton.states.length}
  {position : Nat} {word : List Char} {fault : RunFault}

theorem Leads.mem_states (leads : Leads automaton state word last)
    (known : state ∈ automaton.states) : last ∈ automaton.states := by
  induction leads with
  | here => exact known
  | step moved _ inductionHypothesis =>
      exact inductionHypothesis (endpoints_mem_of_next? moved).2.2

theorem mem_states_of_mem_trace {line : String}
    (visited : state ∈ (automaton.simulate line).trace) : state ∈ automaton.states := by
  obtain ⟨word, leads⟩ := exists_leads_of_mem_trace visited
  exact leads.mem_states automaton.start_mem

/-- A run stops with a fault exactly if it is led to a state that it cannot leave. -/
theorem fault?_simulateFrom_eq_some_iff :
    (automaton.simulateFrom place position word).fault? = some fault ↔
      ∃ before last symbol rest, word = before ++ symbol :: rest ∧
        Leads automaton (automaton.states.get place) before last ∧
        automaton.next? last symbol = none ∧
        fault = automaton.stopFault last symbol (position + before.length) := by
  induction word generalizing place position with
  | nil => simp [simulateFrom_nil]
  | cons symbol rest inductionHypothesis =>
      have shift (before : List Char) :
          position + 1 + before.length = position + (symbol :: before).length := by
        rw [List.length_cons]
        omega
      cases moved : automaton.next? (automaton.states.get place) symbol with
      | none =>
          rw [simulateFrom_cons_of_none moved, Option.some.injEq]
          constructor
          · rintro rfl
            exact ⟨[], _, symbol, rest, rfl, .here, moved, rfl⟩
          · rintro ⟨before, last, other, after, shape, leads, stuck, rfl⟩
            -- The run cannot be led past the symbol that it is stuck on.
            cases leads with
            | here =>
                cases shape
                rfl
            | step otherMoved _ =>
                cases shape
                rw [moved] at otherMoved
                contradiction
      | some next =>
          obtain ⟨nextPlace, rfl, run⟩ := exists_simulateFrom_cons_of_some moved
          rw [run]
          change (automaton.simulateFrom nextPlace (position + 1) rest).fault? = _ ↔ _
          rw [inductionHypothesis]
          constructor
          · rintro ⟨before, last, other, after, rfl, leads, stuck, rfl⟩
            refine ⟨symbol :: before, last, other, after, rfl, .step moved leads, stuck, ?_⟩
            rw [shift]
          · rintro ⟨before, last, other, after, shape, leads, stuck, rfl⟩
            cases leads with
            | here =>
                cases shape
                rw [moved] at stuck
                contradiction
            | step otherMoved leads =>
                cases shape
                rw [moved] at otherMoved
                cases otherMoved
                refine ⟨_, last, other, after, rfl, leads, stuck, ?_⟩
                rw [shift]

theorem mem_alphabet_of_kind {symbol : Char}
    (kind : (automaton.stopFault state symbol position).kind = .noTransition) :
    symbol ∈ automaton.alphabet := by
  unfold stopFault at kind
  split at kind
  next own => exact own
  · contradiction

/-- Some line ends at a missing transition from the state on the symbol. -/
def StopsAt (automaton : Automaton) (state symbol : String) : Prop :=
  ∃ line fault, (automaton.simulate line).fault? = some fault ∧ fault.kind = .noTransition ∧
    fault.state? = some state ∧ fault.symbol = symbol

theorem exists_stopsAt_of_fault? {line : String}
    (stopped : (automaton.simulate line).fault? = some fault) (kind : fault.kind = .noTransition) :
    ∃ state, fault.state? = some state ∧ automaton.StopsAt state fault.symbol := by
  have run := stopped
  rw [simulate, fault?_simulateFrom_eq_some_iff] at run
  obtain ⟨before, last, symbol, rest, _, _, _, rfl⟩ := run
  have named : (automaton.stopFault last symbol (0 + before.length)).state? = some last := by
    rw [stopFault, if_pos (mem_alphabet_of_kind kind)]
  exact ⟨last, named, line, _, stopped, kind, named, rfl⟩

theorem stopsAt_iff {text : String} :
    automaton.StopsAt state text ↔ ∃ symbol ∈ automaton.alphabet,
      text = String.singleton symbol ∧ automaton.next? state symbol = none ∧
        ∃ word, Leads automaton automaton.start word state := by
  unfold StopsAt
  simp only [simulate, fault?_simulateFrom_eq_some_iff, states_startPlace]
  constructor
  · rintro ⟨line, fault, ⟨before, last, symbol, rest, _, leads, stuck, rfl⟩, kind, named, text⟩
    have own := mem_alphabet_of_kind kind
    rw [stopFault, if_pos own] at named text
    cases named
    exact ⟨symbol, own, text.symm, stuck, before, leads⟩
  · rintro ⟨symbol, own, rfl, stuck, word, leads⟩
    have shape : (String.ofList (word ++ [symbol])).toList = word ++ symbol :: [] :=
      String.toList_ofList
    refine ⟨_, _, ⟨word, state, symbol, [], shape, leads, stuck, rfl⟩, ?_⟩
    simp [stopFault, own]

end Automaton

end Acceptor
