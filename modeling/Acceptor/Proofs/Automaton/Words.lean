import Mathlib.Data.List.Perm.Subperm
import Acceptor.Proofs.Automaton.Run

/-!
The states that words lead to from the start.

They are the states that runs visit, and a word that leads to one of them need not be longer
than there are other states: a word that visits a state twice can be cut short.
-/

namespace Acceptor.Automaton

variable {automaton : Automaton} {state next last visited : String} {symbol : Char}
  {place : Fin automaton.states.length} {position : Nat} {word : List Char}

theorem Leads.append_singleton (leads : Leads automaton state word last)
    (moved : automaton.next? last symbol = some next) :
    Leads automaton state (word ++ [symbol]) next := by
  induction leads with
  | here => exact .step moved .here
  | step earlier _ inductionHypothesis => exact .step earlier (inductionHypothesis moved)

/-! ## Runs -/

theorem simulateFrom_of_leads (leads : Leads automaton state word last)
    (named : automaton.states.get place = state) :
    (automaton.simulateFrom place position word).fault? = none ∧
      (automaton.simulateFrom place position word).final? = some last := by
  induction leads generalizing place position with
  | here =>
      rw [simulateFrom_nil, named]
      exact ⟨rfl, rfl⟩
  | step moved _ inductionHypothesis =>
      rw [← named] at moved
      obtain ⟨nextPlace, nextNamed, run⟩ := exists_simulateFrom_cons_of_some moved
      obtain ⟨clean, final⟩ := inductionHypothesis nextNamed
      rw [run, final?_startingAt]
      · exact ⟨clean, final⟩
      · rintro empty
        rw [Verdict.final?, empty] at final
        contradiction

/-- A word that leads to a state is a line that runs to it without a fault. -/
theorem simulate_of_leads (leads : Leads automaton automaton.start word last) :
    (automaton.simulate (String.ofList word)).fault? = none ∧
      (automaton.simulate (String.ofList word)).final? = some last := by
  rw [simulate, String.toList_ofList]
  exact simulateFrom_of_leads leads automaton.states_startPlace

theorem exists_leads_of_mem_trace_from
    (inTrace : visited ∈ (automaton.simulateFrom place position word).trace) :
    ∃ before, Leads automaton (automaton.states.get place) before visited := by
  induction word generalizing place position with
  | nil =>
      rw [simulateFrom_nil] at inTrace
      rw [List.mem_singleton.mp inTrace]
      exact ⟨[], .here⟩
  | cons symbol rest inductionHypothesis =>
      cases moved : automaton.next? (automaton.states.get place) symbol with
      | none =>
          rw [simulateFrom_cons_of_none moved] at inTrace
          rw [List.mem_singleton.mp inTrace]
          exact ⟨[], .here⟩
      | some next =>
          obtain ⟨nextPlace, rfl, run⟩ := exists_simulateFrom_cons_of_some moved
          rw [run] at inTrace
          rcases List.mem_cons.mp inTrace with same | later
          · rw [same]
            exact ⟨[], .here⟩
          · obtain ⟨before, leads⟩ := inductionHypothesis later
            exact ⟨symbol :: before, .step moved leads⟩

/-- Only states that words lead to are visited. -/
theorem exists_leads_of_mem_trace {line : String}
    (inTrace : visited ∈ (automaton.simulate line).trace) :
    ∃ before, Leads automaton automaton.start before visited := by
  rw [← states_startPlace]
  exact exists_leads_of_mem_trace_from inTrace

/-! ## Short words -/

theorem walk_cons_of_some (moved : automaton.next? state symbol = some next) :
    automaton.walk state (symbol :: word) = next :: automaton.walk next word := by
  rw [walk, moved]

theorem length_walk (leads : Leads automaton state word last) :
    (automaton.walk state word).length = word.length := by
  induction leads with
  | here => rfl
  | step moved _ inductionHypothesis =>
      rw [walk_cons_of_some moved, List.length_cons, inductionHypothesis, List.length_cons]

theorem mem_states_of_mem_walk (inWalk : visited ∈ automaton.walk state word) :
    visited ∈ automaton.states := by
  induction word generalizing state with
  | nil => contradiction
  | cons symbol rest inductionHypothesis =>
      cases moved : automaton.next? state symbol with
      | none =>
          rw [walk, moved] at inWalk
          contradiction
      | some next =>
          rw [walk_cons_of_some moved] at inWalk
          rcases List.mem_cons.mp inWalk with same | later
          · rw [same]
            exact (endpoints_mem_of_next? moved).2.2
          · exact inductionHypothesis later

/-- From a state that a walk visits, the rest of the walk leads on. -/
theorem exists_leads_of_mem_walk (leads : Leads automaton state word last)
    (inWalk : visited ∈ state :: automaton.walk state word) :
    ∃ rest, Leads automaton visited rest last ∧
      visited :: automaton.walk visited rest <:+ state :: automaton.walk state word := by
  induction leads with
  | here =>
      rw [List.mem_singleton.mp inWalk]
      exact ⟨[], .here, List.suffix_refl _⟩
  | @step state next last symbol word moved leads inductionHypothesis =>
      rw [walk_cons_of_some moved] at inWalk ⊢
      rcases List.mem_cons.mp inWalk with same | later
      · rw [same]
        refine ⟨symbol :: word, .step moved leads, ?_⟩
        simp only [walk_cons_of_some moved, List.suffix_refl]
      · obtain ⟨rest, restLeads, suffix⟩ := inductionHypothesis later
        exact ⟨rest, restLeads, suffix.trans (List.suffix_cons _ _)⟩

/-- Cutting out what lies between two visits of one state leaves a word that visits no state
twice. -/
theorem exists_leads_nodup (leads : Leads automaton state word last) :
    ∃ short, Leads automaton state short last ∧
      (state :: automaton.walk state short).Nodup := by
  induction leads with
  | here => exact ⟨[], .here, List.nodup_singleton _⟩
  | @step state next last symbol word moved _ inductionHypothesis =>
      obtain ⟨short, shortLeads, distinct⟩ := inductionHypothesis
      -- A walk that comes back to its first state may as well begin there.
      by_cases again : state ∈ next :: automaton.walk next short
      · obtain ⟨rest, restLeads, suffix⟩ := exists_leads_of_mem_walk shortLeads again
        exact ⟨rest, restLeads, distinct.sublist suffix.sublist⟩
      · refine ⟨symbol :: short, .step moved shortLeads, ?_⟩
        rw [walk_cons_of_some moved]
        exact List.nodup_cons.mpr ⟨again, distinct⟩

theorem exists_short_leads (known : state ∈ automaton.states)
    (leads : Leads automaton state word last) :
    ∃ short, Leads automaton state short last ∧
      short.length ≤ automaton.states.length - 1 := by
  obtain ⟨short, shortLeads, distinct⟩ := exists_leads_nodup leads
  have contained : state :: automaton.walk state short ⊆ automaton.states := by
    intro other membership
    rcases List.mem_cons.mp membership with same | inWalk
    · rw [same]
      exact known
    · exact mem_states_of_mem_walk inWalk
  have bound := (List.subperm_of_subset distinct contained).length_le
  rw [List.length_cons, length_walk shortLeads] at bound
  exact ⟨short, shortLeads, Nat.le_sub_one_of_lt bound⟩

end Acceptor.Automaton
