import Acceptor.Proofs.Definition.Describes
import Acceptor.Proofs.Definition.Grid.Reader
import Acceptor.Proofs.Definition.Keyword.Reader

/-!
What every draft keeps to that is read from a text, in whichever form the text is.

Judging a draft does not look at the length of its symbols.  That a judged draft can be built
all the same is owed to the two readers, which let no long symbol through.
-/

namespace Acceptor.Draft

variable {marker : CommentMarker} {text : String} {draft : Draft}

/-- Nothing is declared twice, and symbols are single characters. -/
structure Orderly (draft : Draft) : Prop where
  states_nodup : draft.states.Nodup
  alphabet_nodup : draft.alphabet.Nodup
  hasShortSymbols : draft.HasShortSymbols

theorem hasShortSymbols_of_length (single : ∀ symbol ∈ draft.alphabet, symbol.length = 1) :
    draft.HasShortSymbols := by
  intro symbol declared
  obtain ⟨c, shape⟩ := List.length_eq_one_iff.mp (single symbol declared)
  refine ⟨c, ?_⟩
  rw [← String.toList_inj, shape, String.toList_singleton]

theorem Orderly.of_keyword (wellNamed : Keyword.WellNamed draft) : draft.Orderly where
  states_nodup := wellNamed.states_nodup
  alphabet_nodup := wellNamed.alphabet_nodup
  hasShortSymbols := hasShortSymbols_of_length wellNamed.symbol_length

/-- A draft without lines is empty, and the others keep to what their reader keeps to. -/
theorem named_of_ofText (read : ofText marker text = .ok draft) :
    draft = {} ∨ Keyword.WellNamed draft ∨
      Grid.CellNamed draft ∧ draft.alphabet.Nodup ∧
        ∀ symbol ∈ draft.alphabet, symbol.length = 1 := by
  have clean : ∀ line ∈ Line.significant marker text.toList, Line.Clean marker line.text := by
    intro line
    exact Line.clean_of_mem_significant
  unfold ofText ofLines at read
  split at read
  · cases read
    exact .inl rfl
  next first rest lines =>
    rw [lines] at clean
    split at read
    · exact .inr (.inl (Keyword.wellNamed_of_read read))
    · obtain ⟨alphabet, header, added⟩ := Grid.read_eq_ok_iff.mp read
      obtain ⟨_, single, distinct⟩ := Grid.readHeader_eq_ok_iff.mp header
      have cleanRest := (List.forall_mem_cons.mp clean).2
      obtain ⟨cellNamed, sameAlphabet⟩ := Grid.cellNamed_of_addLines cleanRest added
      rw [← sameAlphabet] at single distinct
      exact .inr (.inr ⟨cellNamed, distinct, single⟩)

theorem orderly_of_ofText (read : ofText marker text = .ok draft) : draft.Orderly := by
  rcases named_of_ofText read with rfl | wellNamed | ⟨cellNamed, distinct, single⟩
  · constructor <;> simp [HasShortSymbols]
  · exact .of_keyword wellNamed
  · exact ⟨cellNamed.states_nodup, distinct, hasShortSymbols_of_length single⟩

/-- States are never named over several lines. -/
theorem newline_not_mem_of_ofText (read : ofText marker text = .ok draft) {state : String}
    (declared : state ∈ draft.states) : '\n' ∉ state.toList := by
  rcases named_of_ofText read with rfl | wellNamed | ⟨cellNamed, _, _⟩
  · contradiction
  · intro membership
    exact absurd ((wellNamed.state_isItem state declared).not_separator _ membership) (by decide)
  · intro membership
    exact ((cellNamed.state_isCell state declared).not_separator _ membership).2.1 rfl

/-- A draft that is read from a text and passes all checks can be built. -/
theorem Sound.exists_build_of_ofText (sound : draft.Sound)
    (read : ofText marker text = .ok draft) : ∃ automaton, draft.build = .ok automaton :=
  sound.exists_build (orderly_of_ofText read).hasShortSymbols

end Acceptor.Draft
