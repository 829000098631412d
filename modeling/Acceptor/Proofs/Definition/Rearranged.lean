import Mathlib.Data.List.Perm.Basic
import Acceptor.Proofs.Automaton.Renaming
import Acceptor.Proofs.Definition.Descendants
import Acceptor.Proofs.Definition.Describes

/-!
Drafts that declare the same things in different orders.

Judging and building such drafts come to the same, up to order: the checks, the warnings and the
automaton are all determined by what is declared.
-/

namespace Acceptor

/-! ## Automata -/

namespace Automaton

/-- The automata differ at most in the order in which their parts are declared. -/
structure SameUpToOrder (automaton other : Automaton) : Prop where
  states : automaton.states.Perm other.states
  alphabet : automaton.alphabet.Perm other.alphabet
  transitions : automaton.transitions.Agrees other.transitions
  start_eq : automaton.start = other.start
  mem_accepting_iff : ∀ state, state ∈ automaton.accepting ↔ state ∈ other.accepting

variable {automaton other : Automaton}

theorem SameUpToOrder.isRenaming (same : automaton.SameUpToOrder other) :
    IsRenaming id id automaton other where
  state_injOn := Function.injective_id.injOn
  symbol_injective := Function.injective_id
  mem_states_iff name := by simp [same.states.mem_iff]
  mem_alphabet_iff name := by simp [same.alphabet.mem_iff]
  start_eq := same.start_eq.symm
  mem_accepting_iff name := by simp [same.mem_accepting_iff]
  next?_iff state _ symbol _ target _ := by
    rw [next?, same.transitions]
    rfl

/-- The tables of the two automata may differ, but their runs do not. -/
theorem SameUpToOrder.simulate_eq (same : automaton.SameUpToOrder other) (line : String) :
    automaton.simulate line = other.simulate line := by
  have renamed := same.isRenaming.simulate_map line
  have sameLine : line.map id = line := by
    rw [← String.toList_inj, String.toList_map, List.map_id]
  rw [sameLine] at renamed
  rw [renamed, Verdict.rename]
  rcases automaton.simulate line with ⟨accepted, trace, _ | ⟨kind, symbol, position, state?⟩⟩
  · simp
  · have sameSymbol : symbol.map id = symbol := by
      rw [← String.toList_inj, String.toList_map, List.map_id]
    simp [RunFault.rename, sameSymbol]

end Automaton

/-! ## Drafts -/

namespace Draft

/-- The drafts declare the same, in whatever order and on whatever lines. -/
structure SameUpToOrder (draft other : Draft) : Prop where
  states : draft.states.Perm other.states
  alphabet : draft.alphabet.Perm other.alphabet
  start?_eq : draft.start? = other.start?
  accepting : draft.accepting.Perm other.accepting
  hasRule_iff : ∀ source symbol target,
    draft.HasRule source symbol target ↔ other.HasRule source symbol target

variable {draft other : Draft} {automaton otherAutomaton : Automaton} {policy : Policy}

theorem SameUpToOrder.symm (same : draft.SameUpToOrder other) : other.SameUpToOrder draft where
  states := same.states.symm
  alphabet := same.alphabet.symm
  start?_eq := same.start?_eq.symm
  accepting := same.accepting.symm
  hasRule_iff source symbol target := (same.hasRule_iff source symbol target).symm

/-- Each rule of one draft says what some rule of the other says. -/
theorem SameUpToOrder.exists_rule (same : draft.SameUpToOrder other) {rule : Rule}
    (isRule : rule ∈ draft.rules) :
    ∃ twin ∈ other.rules, twin.source = rule.source ∧ twin.symbol = rule.symbol ∧
      twin.target = rule.target :=
  (same.hasRule_iff _ _ _).mp ⟨rule, isRule, rfl, rfl, rfl⟩

theorem SameUpToOrder.leads (same : draft.SameUpToOrder other) {first state : String}
    (leads : Leads draft.rules first state) : Leads other.rules first state := by
  induction leads with
  | here => exact .here
  | step _ isRule source inductionHypothesis =>
      obtain ⟨twin, isTwin, sameSource, _, sameTarget⟩ := same.exists_rule isRule
      rw [← sameTarget]
      exact .step inductionHypothesis isTwin (sameSource.trans source)

theorem SameUpToOrder.mem_keys (same : draft.SameUpToOrder other) {key : String × String}
    (defined : key ∈ draft.rules.map Rule.key) : key ∈ other.rules.map Rule.key := by
  obtain ⟨rule, isRule, rfl⟩ := List.mem_map.mp defined
  obtain ⟨twin, isTwin, sameSource, sameSymbol, _⟩ := same.exists_rule isRule
  exact List.mem_map.mpr ⟨twin, isTwin, Prod.ext sameSource sameSymbol⟩

theorem SameUpToOrder.sound (same : draft.SameUpToOrder other) (sound : draft.Sound) :
    other.Sound where
  states_ne_nil empty := by
    apply sound.states_ne_nil
    exact List.perm_nil.mp (empty ▸ same.states)
  alphabet_ne_nil empty := by
    apply sound.alphabet_ne_nil
    exact List.perm_nil.mp (empty ▸ same.alphabet)
  start_mem := by
    obtain ⟨start, declared, given⟩ := sound.start_mem
    exact ⟨start, same.states.mem_iff.mp declared, same.start?_eq ▸ given⟩
  accepting_subset state accepts := by
    apply same.states.mem_iff.mp
    exact sound.accepting_subset state (same.accepting.mem_iff.mpr accepts)
  source_mem rule isRule := by
    obtain ⟨twin, isTwin, source, _, _⟩ := same.symm.exists_rule isRule
    exact source ▸ same.states.mem_iff.mp (sound.source_mem twin isTwin)
  symbol_mem rule isRule := by
    obtain ⟨twin, isTwin, _, symbol, _⟩ := same.symm.exists_rule isRule
    exact symbol ▸ same.alphabet.mem_iff.mp (sound.symbol_mem twin isTwin)
  target_mem rule isRule := by
    obtain ⟨twin, isTwin, _, _, target⟩ := same.symm.exists_rule isRule
    exact target ▸ same.states.mem_iff.mp (sound.target_mem twin isTwin)
  deterministic rule isRule second isSecond sameKey := by
    obtain ⟨twin, isTwin, source, symbol, target⟩ := same.symm.exists_rule isRule
    obtain ⟨secondTwin, isSecondTwin, secondSource, secondSymbol, secondTarget⟩ :=
      same.symm.exists_rule isSecond
    obtain ⟨sourceEq, symbolEq⟩ := Prod.mk.inj sameKey
    rw [← target, ← secondTarget]
    apply sound.deterministic twin isTwin secondTwin isSecondTwin
    exact Prod.ext (by rw [Rule.key, source, sourceEq, ← secondSource]; rfl)
      (by rw [Rule.key, symbol, symbolEq, ← secondSymbol]; rfl)

theorem SameUpToOrder.missing (same : draft.SameUpToOrder other) :
    draft.missing.Perm other.missing := by
  have sameKeys (key : String × String) :
      key ∈ draft.rules.map Rule.key ↔ key ∈ other.rules.map Rule.key :=
    ⟨same.mem_keys, same.symm.mem_keys⟩
  unfold Draft.missing
  simp only [sameKeys]
  apply same.states.flatMap
  intro state _
  exact (same.alphabet.map _).filter _

theorem SameUpToOrder.unreached (same : draft.SameUpToOrder other) :
    draft.unreached.Perm other.unreached := by
  have sameReached (state : String) : state ∈ draft.reached ↔ state ∈ other.reached := by
    cases given : draft.start? with
    | none => simp [Draft.reached, ← same.start?_eq, given]
    | some start =>
        rw [mem_reached_iff given, mem_reached_iff (same.start?_eq ▸ given)]
        exact ⟨same.leads, same.symm.leads⟩
  unfold Draft.unreached
  simp only [sameReached]
  exact same.states.filter _

theorem SameUpToOrder.warnings (same : draft.SameUpToOrder other) (policy : Policy) :
    (draft.warnings policy).Perm (other.warnings policy) := by
  unfold Draft.warnings
  apply List.Perm.append
  · exact same.missing.map _
  · split
    · exact same.unreached.map _
    · exact .nil

theorem Describes.sameUpToOrder (describes : draft.Describes automaton)
    (describesOther : other.Describes otherAutomaton) (same : draft.SameUpToOrder other) :
    automaton.SameUpToOrder otherAutomaton where
  states := by
    apply (List.perm_ext_iff_of_nodup automaton.states_nodup otherAutomaton.states_nodup).mpr
    intro state
    rw [describes.mem_states_iff, describesOther.mem_states_iff, same.states.mem_iff]
  alphabet := by
    apply (List.perm_ext_iff_of_nodup automaton.alphabet_nodup otherAutomaton.alphabet_nodup).mpr
    intro symbol
    rw [describes.singleton_mem_alphabet_iff, describesOther.singleton_mem_alphabet_iff,
      same.alphabet.mem_iff]
  transitions := by
    rintro ⟨state, symbol⟩
    apply Option.ext
    intro target
    have next := describes.next?_eq_some_iff state symbol target
    have nextOther := describesOther.next?_eq_some_iff state symbol target
    rw [same.hasRule_iff] at next
    exact next.trans nextOther.symm
  start_eq := by
    apply Option.some.inj
    rw [← describes.start_eq, ← describesOther.start_eq, same.start?_eq]
  mem_accepting_iff state := by
    rw [← describes.mem_accepting_iff, ← describesOther.mem_accepting_iff, same.accepting.mem_iff]

end Draft

/-! ## Loading -/

/-- What is loaded is the same, up to the order in which it is declared and warned of. -/
structure Loaded.SameUpToOrder (loaded other : Loaded) : Prop where
  automaton : loaded.automaton.SameUpToOrder other.automaton
  warnings : loaded.warnings.Perm other.warnings
  simulate_eq : ∀ line, loaded.automaton.simulate line = other.automaton.simulate line

theorem Draft.SameUpToOrder.exists_loadDraft {draft other : Draft} {policy : Policy}
    {loaded : Loaded} (same : draft.SameUpToOrder other)
    (accepted : Definition.loadDraft policy draft = .ok loaded) :
    ∃ reloaded, Definition.loadDraft policy other = .ok reloaded ∧
      loaded.SameUpToOrder reloaded := by
  obtain ⟨validated, _⟩ := Definition.loadDraft_eq_ok_iff.mp accepted
  obtain ⟨sound, complete, _⟩ := Draft.validate_eq_ok_iff.mp validated
  obtain ⟨describes, warned⟩ := Definition.describes_of_loadDraft accepted
  have otherSound := same.sound sound
  have short : other.HasShortSymbols := by
    intro symbol declared
    exact describes.hasShortSymbols symbol (same.alphabet.mem_iff.mpr declared)
  obtain ⟨automaton, built⟩ := otherSound.exists_build short
  have otherComplete : policy.strict = true → other.missing = [] := by
    intro strict
    exact List.nil_perm.mp (complete strict ▸ same.missing)
  refine ⟨⟨automaton, other.warnings policy⟩, ?_, ?_⟩
  · exact Definition.loadDraft_eq_ok_iff.mpr
      ⟨Draft.validate_eq_ok_iff.mpr ⟨otherSound, otherComplete, rfl⟩, built⟩
  · have sameAutomaton := describes.sameUpToOrder (otherSound.describes_of_build built) same
    exact ⟨sameAutomaton, warned ▸ same.warnings policy, sameAutomaton.simulate_eq⟩

end Acceptor
