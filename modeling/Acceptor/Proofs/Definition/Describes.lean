import Acceptor.Definition
import Acceptor.Proofs.Automaton.Build
import Acceptor.Proofs.Distinct
import Acceptor.Proofs.Validation

/-!
Drafts and the automata that they are definitions of.

A sound draft whose symbols are single characters describes exactly one automaton, up to
`Automaton.Same`, and this automaton is what is built of it.
-/

namespace Acceptor

/-- Some rule of the draft leads from a state on a symbol to a target. -/
def Draft.HasRule (draft : Draft) (source symbol target : String) : Prop :=
  ∃ rule ∈ draft.rules, rule.source = source ∧ rule.symbol = symbol ∧ rule.target = target

/-- The draft is a definition of the automaton.  Repeated states and symbols count once, and
the transitions are the rules, whatever their order. -/
structure Draft.Describes (draft : Draft) (automaton : Automaton) : Prop where
  states_eq : draft.states.eraseDups = automaton.states
  alphabet_eq : draft.alphabet.eraseDups = automaton.alphabet.map String.singleton
  start_eq : draft.start? = some automaton.start
  mem_accepting_iff : ∀ state, state ∈ draft.accepting ↔ state ∈ automaton.accepting
  single : ∀ rule ∈ draft.rules, ∃ c, rule.symbol = String.singleton c
  next?_eq_some_iff : ∀ state symbol target, automaton.next? state symbol = some target ↔
    draft.HasRule state (String.singleton symbol) target

namespace Draft

def HasShortSymbols (draft : Draft) : Prop :=
  ∀ symbol ∈ draft.alphabet, ∃ c, symbol = String.singleton c

theorem get?_parts_eq_some_iff {draft : Draft} (deterministic : Deterministic draft.rules)
    {key : String × String} {target : String} :
    draft.parts.transitions.get? key = some target ↔
      ∃ rule ∈ draft.rules, rule.key = key ∧ rule.target = target := by
  have consistent : ∀ entry ∈ draft.rules.map fun rule => (rule.key, rule.target),
      ∀ other ∈ draft.rules.map fun rule => (rule.key, rule.target),
        entry.1 = other.1 → entry.2 = other.2 := by
    intro entry inEntries other inOthers sameKey
    obtain ⟨left, leftRule, rfl⟩ := List.mem_map.mp inEntries
    obtain ⟨right, rightRule, rfl⟩ := List.mem_map.mp inOthers
    exact deterministic left leftRule right rightRule sameKey
  rw [parts, OrderedMap.get?_ofList_eq_some_iff consistent, List.mem_map]
  simp only [Prod.mk.injEq]

theorem Sound.fit {draft : Draft} (sound : draft.Sound) (short : draft.HasShortSymbols) :
    draft.parts.Fit where
  states_ne_nil := by
    obtain ⟨start, declared, _⟩ := sound.start_mem
    exact List.ne_nil_of_mem (List.mem_eraseDups.mpr declared)
  alphabet_ne_nil := by
    obtain ⟨symbol, rest, equality⟩ := List.exists_cons_of_ne_nil sound.alphabet_ne_nil
    exact List.ne_nil_of_mem (List.mem_eraseDups.mpr (equality ▸ List.mem_cons_self))
  states_nodup := nodup_eraseDups draft.states
  alphabet_nodup := nodup_eraseDups draft.alphabet
  single := fun symbol membership => short symbol (List.mem_eraseDups.mp membership)
  start_mem := by
    obtain ⟨start, declared, given⟩ := sound.start_mem
    exact ⟨start, List.mem_eraseDups.mpr declared, given⟩
  accepting_subset := fun state membership =>
    List.mem_eraseDups.mpr (sound.accepting_subset state membership)
  endpoints_mem := by
    rintro ⟨key, target⟩ membership
    have present := (OrderedMap.get?_eq_some_iff _).mpr membership
    obtain ⟨rule, isRule, rfl, rfl⟩ :=
      (get?_parts_eq_some_iff sound.deterministic).mp present
    exact ⟨List.mem_eraseDups.mpr (sound.source_mem rule isRule),
      List.mem_eraseDups.mpr (sound.symbol_mem rule isRule),
      List.mem_eraseDups.mpr (sound.target_mem rule isRule)⟩

/-- A sound draft whose symbols are single characters can be built. -/
theorem Sound.exists_build {draft : Draft} (sound : draft.Sound)
    (short : draft.HasShortSymbols) : ∃ automaton, draft.build = .ok automaton :=
  (sound.fit short).exists_build

/-- What is built of a sound draft is what the draft describes. -/
theorem Sound.describes_of_build {draft : Draft} {automaton : Automaton}
    (sound : draft.Sound) (built : draft.build = .ok automaton) :
    draft.Describes automaton := by
  obtain ⟨states, alphabet, start, accepting, entries⟩ := Automaton.parts_of_build built
  refine ⟨states, alphabet, start, fun state => ?_, fun rule isRule => ?_,
    fun state symbol target => ?_⟩
  · rw [← accepting]
    rfl
  · have declared : rule.symbol ∈ draft.parts.alphabet :=
      List.mem_eraseDups.mpr (sound.symbol_mem rule isRule)
    rw [alphabet] at declared
    obtain ⟨c, _, equality⟩ := List.mem_map.mp declared
    exact ⟨c, equality.symm⟩
  · rw [Automaton.next?, OrderedMap.get?_eq_some_iff, ← entries,
      Automaton.mem_readEntries_iff, ← OrderedMap.get?_eq_some_iff,
      get?_parts_eq_some_iff sound.deterministic]
    simp only [HasRule, Rule.key, Prod.mk.injEq, and_assoc]

variable {draft : Draft} {automaton other : Automaton}

theorem Describes.mem_states_iff (describes : draft.Describes automaton) {state : String} :
    state ∈ automaton.states ↔ state ∈ draft.states := by
  rw [← describes.states_eq, List.mem_eraseDups]

theorem Describes.singleton_mem_alphabet_iff (describes : draft.Describes automaton)
    {symbol : Char} :
    symbol ∈ automaton.alphabet ↔ String.singleton symbol ∈ draft.alphabet := by
  rw [← List.mem_eraseDups (l := draft.alphabet), describes.alphabet_eq, List.mem_map]
  simp [String.singleton_inj]

/-- A draft describes at most one automaton. -/
theorem Describes.same (describes : draft.Describes automaton)
    (describesOther : draft.Describes other) : automaton.Same other := by
  refine ⟨describes.states_eq.symm.trans describesOther.states_eq, ?_, ?_, ?_, fun state => ?_⟩
  · have texts := describes.alphabet_eq.symm.trans describesOther.alphabet_eq
    exact (List.map_inj_right fun _ _ => String.singleton_inj.mp).mp texts
  · rintro ⟨state, symbol⟩
    refine Option.ext fun target => ?_
    exact (describes.next?_eq_some_iff state symbol target).trans
      (describesOther.next?_eq_some_iff state symbol target).symm
  · exact Option.some.inj (describes.start_eq.symm.trans describesOther.start_eq)
  · rw [← describes.mem_accepting_iff, describesOther.mem_accepting_iff]

theorem Describes.of_same (describes : draft.Describes other) (same : other.Same automaton) :
    draft.Describes automaton := by
  obtain ⟨states, alphabet, transitions, start, accepting⟩ := same
  refine ⟨describes.states_eq.trans states, describes.alphabet_eq.trans (alphabet ▸ rfl),
    describes.start_eq.trans (start ▸ rfl), fun state => ?_, describes.single, ?_⟩
  · rw [describes.mem_accepting_iff, accepting]
  · intro state symbol target
    rw [← describes.next?_eq_some_iff, Automaton.next?, Automaton.next?, transitions]

/-- A draft that describes an automaton passes all checks. -/
theorem Describes.sound (describes : draft.Describes automaton) : draft.Sound := by
  -- Whatever is asked of rules holds of the transitions of every automaton.
  have isTransition : ∀ rule ∈ draft.rules, ∃ symbol,
      rule.symbol = String.singleton symbol ∧
        ((rule.source, symbol), rule.target) ∈ automaton.transitions.entries := by
    intro rule isRule
    obtain ⟨symbol, text⟩ := describes.single rule isRule
    have next := (describes.next?_eq_some_iff rule.source symbol rule.target).mpr
      ⟨rule, isRule, rfl, text, rfl⟩
    exact ⟨symbol, text, (OrderedMap.get?_eq_some_iff _).mp next⟩
  exact {
    states_ne_nil :=
      List.ne_nil_of_mem (describes.mem_states_iff.mp automaton.start_mem)
    alphabet_ne_nil := by
      obtain ⟨symbol, rest, equality⟩ := List.exists_cons_of_ne_nil automaton.alphabet_ne_nil
      exact List.ne_nil_of_mem
        (describes.singleton_mem_alphabet_iff.mp (equality ▸ List.mem_cons_self))
    start_mem :=
      ⟨automaton.start, describes.mem_states_iff.mp automaton.start_mem, describes.start_eq⟩
    accepting_subset := fun state membership =>
      describes.mem_states_iff.mp
        (automaton.accepting_subset state ((describes.mem_accepting_iff state).mp membership))
    source_mem := fun rule isRule => by
      obtain ⟨symbol, _, entry⟩ := isTransition rule isRule
      exact describes.mem_states_iff.mp (automaton.source_mem _ entry)
    symbol_mem := fun rule isRule => by
      obtain ⟨symbol, text, entry⟩ := isTransition rule isRule
      rw [text]
      exact describes.singleton_mem_alphabet_iff.mp (automaton.symbol_mem _ entry)
    target_mem := fun rule isRule => by
      obtain ⟨symbol, _, entry⟩ := isTransition rule isRule
      exact describes.mem_states_iff.mp (automaton.target_mem _ entry)
    deterministic := fun rule isRule other isOther sameKey => by
      obtain ⟨symbol, text, entry⟩ := isTransition rule isRule
      obtain ⟨otherSymbol, otherText, otherEntry⟩ := isTransition other isOther
      obtain ⟨sameSource, sameText⟩ := Prod.mk.inj sameKey
      rw [text, otherText, String.singleton_inj] at sameText
      rw [← sameSource, ← sameText, ← OrderedMap.get?_eq_some_iff] at otherEntry
      rw [← OrderedMap.get?_eq_some_iff, otherEntry] at entry
      exact (Option.some.inj entry).symm }

theorem Describes.hasShortSymbols (describes : draft.Describes automaton) :
    draft.HasShortSymbols := by
  intro symbol membership
  rw [← List.mem_eraseDups, describes.alphabet_eq] at membership
  obtain ⟨c, _, equality⟩ := List.mem_map.mp membership
  exact ⟨c, equality.symm⟩

end Draft

namespace Definition

/-- The text is a definition of the automaton. -/
def Loads (marker : CommentMarker) (text : String) (automaton : Automaton) : Prop :=
  ∃ loaded, load marker {} text = .ok loaded ∧ loaded.automaton.Same automaton

variable {policy : Policy} {draft : Draft} {automaton : Automaton} {loaded : Loaded}

theorem loadDraft_eq_ok_iff :
    loadDraft policy draft = .ok loaded ↔
      draft.validate policy = .ok loaded.warnings ∧ draft.build = .ok loaded.automaton := by
  unfold loadDraft
  cases draft.validate policy with
  | error issues => simp
  | ok warnings =>
      cases draft.build with
      | error fault => simp
      | ok automaton =>
          rcases loaded with ⟨loadedAutomaton, loadedWarnings⟩
          simp [and_comm]

/-- What is loaded is what the draft describes, with the warnings that the policy asks for. -/
theorem describes_of_loadDraft (accepted : loadDraft policy draft = .ok loaded) :
    draft.Describes loaded.automaton ∧ loaded.warnings = draft.warnings policy := by
  obtain ⟨validated, built⟩ := loadDraft_eq_ok_iff.mp accepted
  obtain ⟨sound, _, warnings⟩ := Draft.validate_eq_ok_iff.mp validated
  exact ⟨sound.describes_of_build built, warnings⟩

/-- A draft that describes an automaton is loaded as this automaton. -/
theorem exists_loadDraft_of_describes (lenient : policy.strict = false)
    (describes : draft.Describes automaton) :
    ∃ loaded, loadDraft policy draft = .ok loaded ∧ loaded.automaton.Same automaton := by
  obtain ⟨built, build⟩ := describes.sound.exists_build describes.hasShortSymbols
  refine ⟨⟨built, draft.warnings policy⟩, loadDraft_eq_ok_iff.mpr ⟨?_, build⟩, ?_⟩
  · refine Draft.validate_eq_ok_iff.mpr ⟨describes.sound, fun strict => ?_, rfl⟩
    rw [lenient] at strict
    contradiction
  · exact (describes.sound.describes_of_build build).same describes

theorem loads_iff {marker : CommentMarker} {text : String} :
    Loads marker text automaton ↔
      ∃ draft, Draft.ofText marker text = .ok draft ∧ draft.Describes automaton := by
  unfold Loads load
  cases Draft.ofText marker text with
  | error line => simp
  | ok draft =>
      simp only [Except.ok.injEq, exists_eq_left']
      constructor
      · rintro ⟨loaded, accepted, same⟩
        exact (describes_of_loadDraft accepted).1.of_same same
      · exact exists_loadDraft_of_describes rfl

end Definition

end Acceptor
