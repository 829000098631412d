import Acceptor.Proofs.Definition.Keyword.Reader

/-!
Printed lines of the keyword form: each is read as the statement that it was printed for.
-/

namespace Acceptor.Keyword

theorem IsItem.isItemSeparator {name : List Char} (isItem : IsItem name) {c : Char}
    (membership : c ∈ name) : Text.isItemSeparator c = false :=
  Text.isItemSeparator_eq_false_iff.mpr (isItem.not_separator c membership)

theorem IsItem.cutAtArrow? {name : List Char} (isItem : IsItem name) :
    Line.cutAtArrow? name = none :=
  Line.cutAtArrow?_eq_none_iff.mpr isItem.no_arrow

theorem isItem_singleton {symbol : Char} (notComma : symbol ≠ ',')
    (visible : Text.isBlank symbol = false) : IsItem [symbol] where
  ne_nil := by simp
  not_separator := by simp [notComma, visible]
  no_arrow := fun arrow => by simpa using arrow.length_le

theorem itemNames_intercalate {items : List String}
    (areItems : ∀ item ∈ items, IsItem item.toList) :
    itemNames ([',', ' '].intercalate (items.map String.toList)) = items := by
  rw [itemNames, Text.items_intercalate, List.map_map]
  · exact (List.map_congr_left fun item _ => String.ofList_toList).trans (List.map_id' items)
  · intro name membership
    obtain ⟨item, inItems, rfl⟩ := List.mem_map.mp membership
    exact (areItems item inItems).ne_nil
  · intro name membership c inName
    obtain ⟨item, inItems, rfl⟩ := List.mem_map.mp membership
    exact (areItems item inItems).isItemSeparator inName

theorem cutAtColon?_append {word : List Char} (nonempty : word ≠ [])
    (isWord : ∀ c ∈ word, isWordChar c = true) (body : List Char) :
    cutAtColon? (word ++ ':' :: body) = some (word, body) :=
  cutAtColon?_eq_some_iff.mpr ⟨nonempty, isWord, [], nofun, by rw [List.append_nil]⟩

/-! ## Declarations -/

/-- A word that opens a section when it is printed. -/
structure Opens (word : String) (kind : Section) : Prop where
  named : sectionNamed? word.toList = some kind
  ne_nil : word.toList ≠ []
  isWord : ∀ c ∈ word.toList, isWordChar c = true
  not_blank : ∀ c ∈ word.toList, Text.isBlank c = false
  no_arrow : Line.cutAtArrow? word.toList = none

theorem opens_of_letters {word : String} {kind : Section}
    (named : sectionNamed? word.toList = some kind) (nonempty : word.toList ≠ [])
    (letters : (word.toList.all fun c => isWordChar c && !Text.isBlank c) = true)
    (noArrow : Line.cutAtArrow? word.toList = none) : Opens word kind := by
  have checked : ∀ c ∈ word.toList, isWordChar c = true ∧ Text.isBlank c = false := by
    simpa using letters
  exact ⟨named, nonempty, fun c membership => (checked c membership).1,
    fun c membership => (checked c membership).2, noArrow⟩

theorem opens_states : Opens "states" .states :=
  opens_of_letters (by decide) (by decide) (by decide) (by decide)

theorem opens_alphabet : Opens "alphabet" .alphabet :=
  opens_of_letters (by decide) (by decide) (by decide) (by decide)

theorem opens_start : Opens "start" .start :=
  opens_of_letters (by decide) (by decide) (by decide) (by decide)

theorem opens_accept : Opens "accept" .accepting :=
  opens_of_letters (by decide) (by decide) (by decide) (by decide)

theorem strip_printDeclaration {word : String} {kind : Section} (opens : Opens word kind)
    (items : List String) :
    Text.strip (printDeclaration word items) = word.toList ++ ':' ::
      Text.stripEnd (' ' :: [',', ' '].intercalate (items.map String.toList)) := by
  refine Text.strip_append_cons (fun c head => ?_) (by decide) _
  exact opens.not_blank c (List.mem_of_mem_head? head)

theorem readStatement_printDeclaration {word : String} {kind : Section}
    (opens : Opens word kind) {items : List String}
    (areItems : ∀ item ∈ items, IsItem item.toList) :
    readStatement (Text.strip (printDeclaration word items)) = readDeclaration kind items := by
  have clean : Line.cutAtArrow?
      (' ' :: [',', ' '].intercalate (items.map String.toList)) = none := by
    refine Line.cutAtArrow?_cons_eq_none (by decide) ?_
    refine Line.cutAtArrow?_intercalate (by decide) (by simp) fun name membership => ?_
    obtain ⟨item, inItems, rfl⟩ := List.mem_map.mp membership
    exact (areItems item inItems).cutAtArrow?
  have cleanEnd : Line.cutAtArrow?
      (Text.stripEnd (' ' :: [',', ' '].intercalate (items.map String.toList))) = none := by
    rw [Line.cutAtArrow?_eq_none_iff] at clean ⊢
    exact fun arrow => clean (arrow.trans (List.rdropWhile_prefix Text.isBlank _).isInfix)
  have names : itemNames
      (Text.stripEnd (' ' :: [',', ' '].intercalate (items.map String.toList))) = items := by
    rw [itemNames, Text.items_stripEnd, Text.items_cons (by decide)]
    exact itemNames_intercalate areItems
  rw [strip_printDeclaration opens, readStatement,
    Line.cutAtArrow?_eq_none_of_append opens.no_arrow (by decide) (by decide) cleanEnd,
    cutAtColon?_append opens.ne_nil opens.isWord]
  simp only [opens.named, names]

theorem not_line_end_of_mem_printDeclaration {word : String} {kind : Section}
    (opens : Opens word kind) {items : List String}
    (areItems : ∀ item ∈ items, IsItem item.toList) {c : Char}
    (membership : c ∈ printDeclaration word items) : c ≠ '\n' ∧ c ≠ '\r' := by
  rcases List.mem_append.mp membership with inWord | inBody
  · exact Text.not_line_end_of_visible (opens.not_blank c inWord)
  rcases List.mem_cons.mp inBody with rfl | inBody
  · decide
  rcases List.mem_cons.mp inBody with rfl | inItems
  · decide
  rcases Text.mem_intercalate inItems with inSeparator | ⟨name, inNames, inName⟩
  · have either : c = ',' ∨ c = ' ' := by simpa using inSeparator
    rcases either with rfl | rfl <;> decide
  · obtain ⟨item, inList, rfl⟩ := List.mem_map.mp inNames
    exact Text.not_line_end_of_visible ((areItems item inList).not_separator c inName).2

/-! ## Rules -/

/-- The names of a transition can stand as items. -/
structure AreItems (transition : (String × Char) × String) : Prop where
  source : IsItem transition.1.1.toList
  symbol : IsItem [transition.1.2]
  target : IsItem transition.2.toList

/-- What stands in front of a source that would open a comment. -/
def lead (marker : CommentMarker) (source : String) : List Char :=
  if source.toList.head? = some marker.char then [','] else []

variable {marker : CommentMarker} {transition : (String × Char) × String}

theorem eq_comma_of_mem_lead {source : String} {c : Char}
    (membership : c ∈ lead marker source) : c = ',' := by
  unfold lead at membership
  split at membership
  · exact List.mem_singleton.mp membership
  · contradiction

theorem printRule_eq (marker : CommentMarker) (transition : (String × Char) × String) :
    printRule marker transition =
      (lead marker transition.1.1 ++ transition.1.1.toList) ++ ',' ::
        (' ' :: transition.1.2 :: ' ' :: '-' :: '>' :: ' ' :: transition.2.toList) := by
  simp [printRule, lead]

theorem cutAtArrow?_printRule (areItems : AreItems transition) :
    Line.cutAtArrow? (printRule marker transition) =
      some ((lead marker transition.1.1 ++ transition.1.1.toList) ++
        [',', ' ', transition.1.2, ' '], ' ' :: transition.2.toList) := by
  have cleanSource :
      Line.cutAtArrow? (lead marker transition.1.1 ++ transition.1.1.toList) = none := by
    unfold lead
    split
    · exact Line.cutAtArrow?_cons_eq_none (by decide) areItems.source.cutAtArrow?
    · exact areItems.source.cutAtArrow?
  have cleanSymbol : Line.cutAtArrow? [' ', transition.1.2] = none :=
    Line.cutAtArrow?_cons_eq_none (by decide) areItems.symbol.cutAtArrow?
  have arrow := Line.cutAtArrow?_append_cons cleanSymbol (c := ' ') (by decide) (by decide)
    ('-' :: '>' :: ' ' :: transition.2.toList)
  rw [printRule_eq, Line.cutAtArrow?_append_cons cleanSource (by decide) (by decide)]
  simp only [List.cons_append, List.nil_append] at arrow
  rw [arrow]
  simp [Line.cutAtArrow?]

theorem readStatement_printRule (areItems : AreItems transition) :
    readStatement (printRule marker transition) =
      .ok (.rule transition.1.1 (String.singleton transition.1.2) transition.2) := by
  have leading : ∀ c ∈ lead marker transition.1.1, Text.isItemSeparator c = true := by
    intro c membership
    rw [eq_comma_of_mem_lead membership]
    decide
  have source : Text.items (lead marker transition.1.1 ++ transition.1.1.toList) =
      [transition.1.1.toList] := by
    rw [Text.items_eq_visiblePieces, Text.visiblePieces_append_left leading,
      ← Text.items_eq_visiblePieces]
    exact Text.items_of_forall areItems.source.ne_nil fun _ => areItems.source.isItemSeparator
  have symbol : Text.items [transition.1.2] = [[transition.1.2]] :=
    Text.items_of_forall areItems.symbol.ne_nil fun _ => areItems.symbol.isItemSeparator
  have target : Text.items transition.2.toList = [transition.2.toList] :=
    Text.items_of_forall areItems.target.ne_nil fun _ => areItems.target.isItemSeparator
  have afterSymbol : Text.items [transition.1.2, ' '] = [[transition.1.2]] := by
    have split : Text.items ([transition.1.2] ++ ' ' :: []) =
        Text.items [transition.1.2] ++ Text.items [] := Text.items_append_cons (by decide) _ _
    rwa [symbol] at split
  have before : itemNames ((lead marker transition.1.1 ++ transition.1.1.toList) ++
      [',', ' ', transition.1.2, ' ']) =
        [transition.1.1, String.singleton transition.1.2] := by
    rw [itemNames, Text.items_append_cons (by decide), source, Text.items_cons (by decide),
      afterSymbol]
    simp
  have after : itemNames (' ' :: transition.2.toList) = [transition.2] := by
    rw [itemNames, Text.items_cons (by decide), target]
    simp
  simp only [readStatement, cutAtArrow?_printRule areItems, readRule, before, after]

theorem not_line_end_of_mem_printRule (areItems : AreItems transition) {c : Char}
    (membership : c ∈ printRule marker transition) : c ≠ '\n' ∧ c ≠ '\r' := by
  rw [printRule_eq] at membership
  rcases List.mem_append.mp membership with inFront | inRest
  · rcases List.mem_append.mp inFront with inLead | inSource
    · rw [eq_comma_of_mem_lead inLead]
      decide
    · exact Text.not_line_end_of_visible (areItems.source.not_separator c inSource).2
  · simp only [List.mem_cons] at inRest
    rcases inRest with rfl | rfl | rfl | rfl | rfl | rfl | rfl | inTarget
    · decide
    · decide
    · exact Text.not_line_end_of_visible (areItems.symbol.not_separator _ (by simp)).2
    · decide
    · decide
    · decide
    · decide
    · exact Text.not_line_end_of_visible (areItems.target.not_separator c inTarget).2

/-- The first character of a rule is its lead or that of its source. -/
theorem head?_printRule (areItems : AreItems transition) :
    ∃ c, (printRule marker transition).head? = some c ∧ Text.isBlank c = false ∧
      c ≠ marker.char := by
  obtain ⟨d, rest, source⟩ := List.exists_cons_of_ne_nil areItems.source.ne_nil
  have visible : Text.isBlank d = false :=
    (areItems.source.not_separator d (by rw [source]; exact List.mem_cons_self)).2
  by_cases comment : d = marker.char
  · have notComma : ',' ≠ marker.char := by
      intro equality
      have allowed := marker.isMarker_char
      rw [← equality] at allowed
      exact absurd allowed (by decide)
    exact ⟨',', by simp [printRule, source, comment], by decide, notComma⟩
  · exact ⟨d, by simp [printRule, source, comment], visible, comment⟩

theorem strip_printRule (areItems : AreItems transition) :
    Text.strip (printRule marker transition) = printRule marker transition := by
  refine Text.strip_eq_self (fun c head => ?_) (fun c last => ?_)
  · obtain ⟨d, first, visible, _⟩ : ∃ d, (printRule marker transition).head? = some d ∧
        Text.isBlank d = false ∧ d ≠ marker.char := head?_printRule areItems
    rw [head] at first
    cases first
    exact visible
  · have inTarget : transition.2.toList.getLast? = some c := by
      rw [printRule, List.getLast?_append] at last
      cases final : transition.2.toList.getLast? with
      | none => exact absurd (List.getLast?_eq_none_iff.mp final) areItems.target.ne_nil
      | some d => simpa [final] using last
    exact (areItems.target.not_separator c (List.mem_of_getLast? inTarget)).2

end Acceptor.Keyword
