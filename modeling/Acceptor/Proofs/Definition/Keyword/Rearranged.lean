import Acceptor.Proofs.Definition.Keyword.Collected
import Acceptor.Proofs.Definition.Rearranged

/-!
Definitions in keyword form with their significant lines in another order.

Nothing that the keyword form says depends on the order of its lines, so another order gives the
same automaton, up to the order in which it is declared.
-/

namespace Acceptor

namespace Keyword

variable {lines other : List Line} {numbered otherNumbered : List (Nat × Statement)}
  {statements otherStatements : List Statement}

/-! ## Statements in another order -/

theorem declared_perm (permuted : statements.Perm otherStatements) (kind : Section) :
    (declared kind statements).Perm (declared kind otherStatements) :=
  permuted.flatMap_right _

theorem Consistent.perm (consistent : Consistent statements)
    (permuted : statements.Perm otherStatements) : Consistent otherStatements where
  nodup kind := (declared_perm permuted kind).nodup_iff.mp (consistent.nodup kind)
  start_once := (declared_perm permuted .start).length_eq ▸ consistent.start_once
  start_single items membership := consistent.start_single items (permuted.mem_iff.mpr membership)

theorem head?_declared_start_eq (consistent : Consistent statements)
    (permuted : statements.Perm otherStatements) :
    (declared .start statements).head? = (declared .start otherStatements).head? := by
  have startPermuted := declared_perm permuted .start
  have once := consistent.start_once
  rcases starts : declared .start statements with _ | ⟨start, _ | ⟨second, rest⟩⟩
  · rw [starts] at startPermuted
    rw [List.nil_perm.mp startPermuted]
  · rw [starts] at startPermuted
    rw [List.singleton_perm.mp startPermuted]
  · rw [starts, List.length_cons, List.length_cons] at once
    omega

theorem hasRule_collect_iff {source symbol target : String} :
    (collect numbered).HasRule source symbol target ↔
      .rule source symbol target ∈ numbered.map Prod.snd := by
  constructor
  · rintro ⟨rule, isRule, rfl, rfl, rfl⟩
    obtain ⟨⟨number, statement⟩, membership, own⟩ := List.mem_flatMap.mp isRule
    cases statement with
    | declare kind items => contradiction
    | rule source symbol target =>
        cases List.mem_singleton.mp own
        exact List.mem_map.mpr ⟨_, membership, rfl⟩
  · intro stated
    obtain ⟨⟨number, statement⟩, membership, rfl⟩ := List.mem_map.mp stated
    refine ⟨{ source, symbol, target, line? := some number }, ?_, rfl, rfl, rfl⟩
    exact List.mem_flatMap.mpr ⟨_, membership, List.mem_singleton.mpr rfl⟩

theorem sameUpToOrder_collect (consistent : Consistent (numbered.map Prod.snd))
    (permuted : (numbered.map Prod.snd).Perm (otherNumbered.map Prod.snd)) :
    (collect numbered).SameUpToOrder (collect otherNumbered) where
  states := declared_perm permuted .states
  alphabet := declared_perm permuted .alphabet
  start?_eq := head?_declared_start_eq consistent permuted
  accepting := declared_perm permuted .accepting
  hasRule_iff source symbol target := by
    rw [hasRule_collect_iff, hasRule_collect_iff, permuted.mem_iff]

/-! ## Lines in another order -/

/-- What is read does not depend on the numbers of the lines. -/
theorem map_snd_statementsOn (lines : List Line) :
    (statementsOn lines).map Prod.snd =
      (lines.map Line.text).filterMap fun text => (readStatement text).toOption := by
  rw [statementsOn, List.map_filterMap, List.filterMap_map]
  congr 1
  funext line
  simp

theorem isReadable_of_perm (permuted : (lines.map Line.text).Perm (other.map Line.text))
    (readable : ∀ line ∈ lines, IsReadable line) : ∀ line ∈ other, IsReadable line := by
  intro line membership
  have inTexts := permuted.mem_iff.mpr (List.mem_map_of_mem membership)
  obtain ⟨twin, isLine, sameText⟩ := List.mem_map.mp inTexts
  rw [IsReadable, ← sameText]
  exact readable twin isLine

theorem exists_read_of_perm {draft : Draft}
    (permuted : (lines.map Line.text).Perm (other.map Line.text))
    (accepted : read lines = .ok draft) :
    ∃ rearranged, read other = .ok rearranged ∧ draft.SameUpToOrder rearranged := by
  obtain ⟨readable, consistent, rfl⟩ := read_eq_ok_iff.mp accepted
  have permutedStatements :
      ((statementsOn lines).map Prod.snd).Perm ((statementsOn other).map Prod.snd) := by
    rw [map_snd_statementsOn, map_snd_statementsOn]
    exact permuted.filterMap _
  refine ⟨collect (statementsOn other), ?_, sameUpToOrder_collect consistent permutedStatements⟩
  exact read_eq_ok_iff.mpr ⟨isReadable_of_perm permuted readable,
    consistent.perm permutedStatements, rfl⟩

/-- Any line that can be read shows that the form is the keyword form. -/
theorem IsReadable.opens {line : Line} (readable : IsReadable line) :
    ':' ∈ line.text ∨ ['-', '>'] <:+: line.text := by
  obtain ⟨statement, read⟩ := readable
  rcases readStatement_eq_ok_iff.mp read with
    ⟨before, after, cut, _⟩ | ⟨_, word, body, kind, cut, _, _⟩
  · exact .inr ⟨before, after, by simp [Line.eq_of_cutAtArrow? cut]⟩
  · exact .inl ((suffix_of_cutAtColon? cut).mem List.mem_cons_self)

end Keyword

namespace Draft

variable {marker : CommentMarker} {text other : String} {draft : Draft}

/-- The significant lines of one text are those of the other, in some order. -/
def IsRearranged (marker : CommentMarker) (text other : String) : Prop :=
  ((Line.significant marker text.toList).map Line.text).Perm
    ((Line.significant marker other.toList).map Line.text)

theorem isKeywordForm_of_isRearranged (isKeywordForm : IsKeywordForm marker text)
    (rearranged : IsRearranged marker text other)
    (readable : ∀ line ∈ Line.significant marker text.toList, Keyword.IsReadable line) :
    IsKeywordForm marker other := by
  obtain ⟨_, _, lines, _⟩ := isKeywordForm
  have otherReadable := Keyword.isReadable_of_perm rearranged readable
  cases otherLines : Line.significant marker other.toList with
  | nil =>
      rw [IsRearranged, lines, otherLines] at rearranged
      exact absurd rearranged.length_eq (by simp)
  | cons first rest =>
      rw [otherLines] at otherReadable
      exact ⟨first, rest, otherLines, (List.forall_mem_cons.mp otherReadable).1.opens⟩

theorem exists_ofText_of_isRearranged (isKeywordForm : IsKeywordForm marker text)
    (rearranged : IsRearranged marker text other) (read : ofText marker text = .ok draft) :
    ∃ otherDraft, ofText marker other = .ok otherDraft ∧ draft.SameUpToOrder otherDraft := by
  rw [ofText_of_isKeywordForm isKeywordForm] at read
  have readable := (Keyword.read_eq_ok_iff.mp read).1
  rw [ofText_of_isKeywordForm (isKeywordForm_of_isRearranged isKeywordForm rearranged readable)]
  exact Keyword.exists_read_of_perm rearranged read

end Draft

namespace Definition

/-- The lines of a definition in keyword form may come in any order: what can be loaded can be
loaded in every other order, and what is loaded is the same up to order. -/
theorem exists_loadBy_of_isRearranged {descendants : Digraph → String → List String}
    (documented : Digraph.AreDescendants descendants) {marker : CommentMarker} {policy : Policy}
    {text other : String} {loaded : Loaded} (isKeywordForm : Draft.IsKeywordForm marker text)
    (rearranged : Draft.IsRearranged marker text other)
    (accepted : loadBy descendants marker policy text = .ok loaded) :
    ∃ reloaded, loadBy descendants marker policy other = .ok reloaded ∧
      loaded.SameUpToOrder reloaded := by
  rw [loadBy_eq_load documented, load] at accepted
  split at accepted
  · contradiction
  next draft read =>
    obtain ⟨otherDraft, otherRead, same⟩ :=
      Draft.exists_ofText_of_isRearranged isKeywordForm rearranged read
    rw [loadBy_eq_load documented, load, otherRead]
    exact same.exists_loadDraft accepted

def tidyText : String :=
  "states: s, t, lost\nalphabet: 0\nalphabet: 1\nstart: s\naccept: t\ns, 0 -> t\nt, 1 -> s\n"

/-- The lines of `tidyText` from the last to the first, with other lines between them. -/
def shuffledText : String :=
  "t, 1 -> s\n# rules\n  s, 0 -> t\r\naccept: t\n\nstart: s\nalphabet: 1\nalphabet: 0\n" ++
    "states: s, t, lost"

theorem exists_loadBy_shuffledText :
    Digraph.AreDescendants Digraph.spreadDescendants ∧ Draft.IsKeywordForm default tidyText ∧
      Draft.IsRearranged default tidyText shuffledText ∧
      ∃ loaded, loadBy Digraph.spreadDescendants default {} tidyText = .ok loaded ∧
        ∃ reloaded, loadBy Digraph.spreadDescendants default {} shuffledText = .ok reloaded ∧
          loaded.SameUpToOrder reloaded := by
  have documented := Digraph.areDescendants_spreadDescendants
  have isKeywordForm : Draft.IsKeywordForm default tidyText := by decide +kernel
  have rearranged : Draft.IsRearranged default tidyText shuffledText := by
    unfold Draft.IsRearranged
    decide +kernel
  have outcome :
      (loadBy Digraph.spreadDescendants default {} tidyText).toOption.isSome = true := by
    decide +kernel
  refine ⟨documented, isKeywordForm, rearranged, ?_⟩
  cases accepted : loadBy Digraph.spreadDescendants default {} tidyText with
  | error fault =>
      rw [accepted] at outcome
      exact absurd outcome Bool.false_ne_true
  | ok loaded =>
      exact ⟨loaded, rfl,
        exists_loadBy_of_isRearranged documented isKeywordForm rearranged accepted⟩

end Definition

end Acceptor
