import Acceptor.Proofs.Definition.Orderly

/-!
Automata made of accepted drafts: nothing of the draft is lost, and nothing is added to it.

The map of transitions keeps the last target of a state and a symbol, and drafts are judged by the
first; that all rules about a state and a symbol agree makes both the same.
-/

namespace Acceptor

namespace OrderedMap

variable {Key Value : Type} [DecidableEq Key]

theorem ofList_concat (entries : List (Key × Value)) (last : Key × Value) :
    ofList (entries ++ [last]) = (ofList entries).insert last.1 last.2 := by
  rw [ofList, insertAll, List.foldl_append]
  rfl

/-- A key keeps the place at which it came first. -/
theorem areFirstOccurrences_keys_ofList (entries : List (Key × Value)) :
    AreFirstOccurrences (entries.map Prod.fst) (ofList entries).keys := by
  induction entries using List.reverseRecOn with
  | nil => exact areFirstOccurrences_nil
  | append_singleton entries last inductionHypothesis =>
      rw [ofList_concat, keys_insert, List.map_append, List.map_singleton]
      split
      next present =>
        exact inductionHypothesis.concat_of_mem ((inductionHypothesis.mem_iff _).mp present)
      next absent =>
        exact inductionHypothesis.concat_of_not_mem
          fun membership => absent ((inductionHypothesis.mem_iff _).mpr membership)

end OrderedMap

namespace Automaton

/-- A pair of a state and a symbol with the symbol as a text. -/
def keyText (key : String × Char) : String × String :=
  (key.1, String.singleton key.2)

theorem map_keyText_readEntries {entries : List ((String × String) × String)}
    (single : ∀ entry ∈ entries, ∃ c, entry.1.2 = String.singleton c) :
    ((readEntries entries).map fun entry => keyText entry.1) = entries.map Prod.fst := by
  induction entries with
  | nil => rfl
  | cons entry rest inductionHypothesis =>
      obtain ⟨⟨c, text⟩, singleRest⟩ := List.forall_mem_cons.mp single
      rcases entry with ⟨⟨state, symbol⟩, target⟩
      obtain rfl : symbol = String.singleton c := text
      have read : symbol? (String.singleton c) = some c := symbol?_eq_some_iff.mpr rfl
      rw [readEntries, read, List.map_cons, List.map_cons, inductionHypothesis singleRest]
      rfl

/-- Of long symbols nothing is said until all else that stands before them is found in order. -/
theorem build_eq_longSymbol {parts : Parts} (states : parts.states ≠ [])
    (alphabet : parts.alphabet ≠ []) (distinctStates : parts.states.Nodup)
    (distinctSymbols : parts.alphabet.Nodup)
    (long : ∃ symbol ∈ parts.alphabet, symbol.length ≠ 1) :
    build parts = .error .longSymbol := by
  have unread : symbols? parts.alphabet = none := by
    refine Option.eq_none_iff_forall_ne_some.mpr fun symbols read => ?_
    obtain ⟨symbol, membership, notSingle⟩ := long
    rw [symbols?_eq_some_iff.mp read] at membership
    obtain ⟨c, _, rfl⟩ := List.mem_map.mp membership
    exact notSingle (by simp)
  unfold build
  rw [if_neg states, dif_neg alphabet, dif_neg (Decidable.not_not.mpr distinctStates),
    dif_neg (Decidable.not_not.mpr distinctSymbols)]
  split
  · rfl
  next read =>
    rw [unread] at read
    contradiction

end Automaton

namespace Draft

/-- The automaton is the draft without its repetitions. -/
structure IsFrozenAs (draft : Draft) (automaton : Automaton) : Prop where
  states : AreFirstOccurrences draft.states automaton.states
  alphabet : AreFirstOccurrences draft.alphabet (automaton.alphabet.map String.singleton)
  start_eq : draft.start? = some automaton.start
  mem_accepting_iff : ∀ state, state ∈ automaton.accepting ↔ state ∈ draft.accepting
  moves_iff : ∀ source symbol target,
    (∃ c, symbol = String.singleton c ∧ automaton.next? source c = some target) ↔
      draft.HasRule source symbol target
  keys : AreFirstOccurrences (draft.rules.map Rule.key)
    (automaton.transitions.keys.map Automaton.keyText)

variable {draft : Draft} {automaton : Automaton}

theorem areFirstOccurrences_keys (built : draft.build = .ok automaton)
    (single : ∀ rule ∈ draft.rules, ∃ c, rule.symbol = String.singleton c) :
    AreFirstOccurrences (draft.rules.map Rule.key)
      (automaton.transitions.keys.map Automaton.keyText) := by
  obtain ⟨_, _, _, _, entries⟩ := Automaton.parts_of_build built
  have occurrences := OrderedMap.areFirstOccurrences_keys_ofList
    (draft.rules.map fun rule => (rule.key, rule.target))
  rw [List.map_map] at occurrences
  have singleEntries : ∀ entry ∈ draft.parts.transitions.entries,
      ∃ c, entry.1.2 = String.singleton c := by
    intro entry membership
    obtain ⟨rule, isRule, same⟩ :=
      List.mem_map.mp ((occurrences.mem_iff entry.1).mp (List.mem_map_of_mem membership))
    rw [← same]
    exact single rule isRule
  have texts : automaton.transitions.keys.map Automaton.keyText = draft.parts.transitions.keys := by
    rw [OrderedMap.keys, List.map_map, ← entries]
    exact Automaton.map_keyText_readEntries singleEntries
  rw [texts]
  exact occurrences

theorem Sound.isFrozenAs (sound : draft.Sound) (built : draft.build = .ok automaton) :
    draft.IsFrozenAs automaton := by
  have describes := sound.describes_of_build built
  refine ⟨?_, ?_, describes.start_eq, fun state => (describes.mem_accepting_iff state).symm,
    fun source symbol target => ?_, areFirstOccurrences_keys built describes.single⟩
  · rw [← describes.states_eq]
    exact areFirstOccurrences_eraseDups draft.states
  · rw [← describes.alphabet_eq]
    exact areFirstOccurrences_eraseDups draft.alphabet
  · constructor
    · rintro ⟨c, rfl, moved⟩
      exact (describes.next?_eq_some_iff source c target).mp moved
    · rintro ⟨rule, isRule, rfl, rfl, rfl⟩
      obtain ⟨c, text⟩ := describes.single rule isRule
      refine ⟨c, text, (describes.next?_eq_some_iff _ c _).mpr ?_⟩
      exact ⟨rule, isRule, rfl, text, rfl⟩

theorem Sound.build_eq_longSymbol (sound : draft.Sound)
    (long : ∃ symbol ∈ draft.alphabet, symbol.length ≠ 1) :
    draft.build = .error .longSymbol := by
  obtain ⟨start, declared, _⟩ := sound.start_mem
  obtain ⟨symbol, membership, notSingle⟩ := long
  have inAlphabet : symbol ∈ draft.parts.alphabet := List.mem_eraseDups.mpr membership
  apply Automaton.build_eq_longSymbol
  · exact List.ne_nil_of_mem (List.mem_eraseDups.mpr declared)
  · exact List.ne_nil_of_mem inAlphabet
  · exact nodup_eraseDups draft.states
  · exact nodup_eraseDups draft.alphabet
  · exact ⟨symbol, inAlphabet, notSingle⟩

/-- Of an accepted draft an automaton is made, unless some symbol is no single character, and the
automaton is the draft without its repetitions. -/
theorem build_eq_error_iff_and_isFrozenAs {policy : Policy} {warnings : List Issue}
    (accepted : draft.validate policy = .ok warnings) :
    (∀ fault, draft.build = .error fault ↔
        fault = .longSymbol ∧ ∃ symbol ∈ draft.alphabet, symbol.length ≠ 1) ∧
      ((∀ symbol ∈ draft.alphabet, symbol.length = 1) →
        ∃ automaton, draft.build = .ok automaton ∧ draft.IsFrozenAs automaton) := by
  have sound := (validate_eq_ok_iff.mp accepted).1
  have freezes (single : ∀ symbol ∈ draft.alphabet, symbol.length = 1) :
      ∃ automaton, draft.build = .ok automaton ∧ draft.IsFrozenAs automaton := by
    obtain ⟨automaton, built⟩ := sound.exists_build (hasShortSymbols_of_length single)
    exact ⟨automaton, built, sound.isFrozenAs built⟩
  refine ⟨fun fault => ?_, freezes⟩
  by_cases long : ∃ symbol ∈ draft.alphabet, symbol.length ≠ 1
  · rw [sound.build_eq_longSymbol long, Except.error.injEq, eq_comm]
    exact (and_iff_left long).symm
  · obtain ⟨automaton, built, _⟩ := freezes (by simpa using long)
    simp [built, long]

def repetitiveDraft : Draft where
  states := ["s", "t", "s"]
  alphabet := ["b", "a", "b"]
  start? := some "t"
  accepting := ["s", "s"]
  rules := [⟨"t", "a", "s", some 5⟩, ⟨"s", "b", "t", some 6⟩, ⟨"t", "a", "s", some 7⟩,
    ⟨"s", "b", "t", none⟩]

theorem isFrozenAs_repetitiveDraft :
    repetitiveDraft.validate {} =
        .ok [.missing "s" "a", .missing "t" "b", .missing "t" "b", .missing "s" "a"] ∧
      (∀ symbol ∈ repetitiveDraft.alphabet, symbol.length = 1) ∧
      ∃ automaton, repetitiveDraft.build = .ok automaton ∧
        repetitiveDraft.IsFrozenAs automaton := by
  have accepted : repetitiveDraft.validate {} =
      .ok [.missing "s" "a", .missing "t" "b", .missing "t" "b", .missing "s" "a"] := by decide
  have single : ∀ symbol ∈ repetitiveDraft.alphabet, symbol.length = 1 := by decide
  exact ⟨accepted, single, (build_eq_error_iff_and_isFrozenAs accepted).2 single⟩

end Draft

end Acceptor
