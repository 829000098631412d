import Acceptor.Definition.Keyword.Printer
import Acceptor.Proofs.Definition.Lines
import Acceptor.Proofs.Distinct

/-!
Reading the keyword form of a definition.

`addLine_eq_ok_iff` says all that a line can do to a draft: it is a statement that fits the
draft, and the draft is extended by it.  Whatever is read keeps the invariant `WellNamed`.
-/

namespace Acceptor.Keyword

/-! ## Statements added to drafts -/

theorem addUnique_eq_ok_iff {fault : String → LineFault} {present items result : List String} :
    addUnique fault present items = .ok result ↔
      items.Nodup ∧ (∀ item ∈ items, item ∉ present) ∧ result = present ++ items := by
  induction items generalizing present with
  | nil => simp [addUnique, eq_comm]
  | cons item rest inductionHypothesis =>
      unfold addUnique
      by_cases repeated : item ∈ present
      · simp [repeated]
      · rw [if_neg repeated, inductionHypothesis, ← and_assoc, nodup_fresh_cons_iff repeated,
          and_assoc, List.append_assoc, List.singleton_append]

theorem map_addUnique_eq_ok_iff {fault : String → LineFault} {present items : List String}
    {extend : List String → Draft} {extended : Draft} :
    (addUnique fault present items).map extend = .ok extended ↔
      (items.Nodup ∧ ∀ item ∈ items, item ∉ present) ∧
        extended = extend (present ++ items) := by
  cases added : addUnique fault present items with
  | error found =>
      simp only [Except.map, reduceCtorEq, false_iff]
      rintro ⟨⟨distinct, fresh⟩, _⟩
      have accepted : addUnique fault present items = .ok (present ++ items) :=
        addUnique_eq_ok_iff.mpr ⟨distinct, fresh, rfl⟩
      rw [added] at accepted
      contradiction
  | ok result =>
      obtain ⟨distinct, fresh, rfl⟩ := addUnique_eq_ok_iff.mp added
      simp only [Except.map, Except.ok.injEq, distinct, true_and, eq_comm (a := extended)]
      exact (and_iff_right fresh).symm

def Statement.Fits (draft : Draft) : Statement → Prop
  | .declare .states items => items.Nodup ∧ ∀ item ∈ items, item ∉ draft.states
  | .declare .alphabet items => items.Nodup ∧ ∀ item ∈ items, item ∉ draft.alphabet
  | .declare .accepting items => items.Nodup ∧ ∀ item ∈ items, item ∉ draft.accepting
  | .declare .start items => draft.start? = none ∧ ∃ state, items = [state]
  | .rule _ _ _ => True

def Statement.extend (draft : Draft) (number : Nat) : Statement → Draft
  | .declare .states items => { draft with states := draft.states ++ items }
  | .declare .alphabet items => { draft with alphabet := draft.alphabet ++ items }
  | .declare .accepting items => { draft with accepting := draft.accepting ++ items }
  | .declare .start items => { draft with start? := items.head? }
  | .rule source symbol target =>
      { draft with rules := draft.rules ++ [{ source, symbol, target, line? := some number }] }

theorem addStatement_eq_ok_iff {draft extended : Draft} {number : Nat} {statement : Statement} :
    addStatement draft number statement = .ok extended ↔
      statement.Fits draft ∧ extended = statement.extend draft number := by
  cases statement with
  | rule source symbol target =>
      simp [addStatement, Statement.Fits, Statement.extend, eq_comm]
  | declare kind items =>
      cases kind with
      | states => exact map_addUnique_eq_ok_iff
      | alphabet => exact map_addUnique_eq_ok_iff
      | accepting => exact map_addUnique_eq_ok_iff
      | start =>
          unfold addStatement
          cases given : draft.start? with
          | some start => simp [Statement.Fits, given]
          | none =>
              rcases items with _ | ⟨state, _ | ⟨second, rest⟩⟩
              · simp [Statement.Fits]
              · simp [Statement.Fits, Statement.extend, given, eq_comm]
              · simp [Statement.Fits]

theorem addLine_eq_ok_iff {draft extended : Draft} {line : Line} :
    addLine draft line = .ok extended ↔ ∃ statement, readStatement line.text = .ok statement ∧
      statement.Fits draft ∧ extended = statement.extend draft line.number := by
  rw [addLine, Except.bind_eq_ok_iff]
  simp only [addStatement_eq_ok_iff]

/-! ## Names in drafts -/

/-- The items of a declaration can stand as items, and those of an alphabet are single
characters. -/
def Statement.Named : Statement → Prop
  | .declare kind items =>
      (∀ item ∈ items, IsItem item.toList) ∧
        (kind = .alphabet → ∀ item ∈ items, item.length = 1)
  | .rule _ _ _ => True

theorem isItem_of_mem_itemNames {text : List Char} (noArrow : ¬ ['-', '>'] <:+: text)
    {name : String} (membership : name ∈ itemNames text) : IsItem name.toList := by
  obtain ⟨item, isItem, rfl⟩ := List.mem_map.mp membership
  rw [String.toList_ofList]
  refine ⟨Text.ne_nil_of_mem_items isItem, fun c inItem => ?_, fun arrow => ?_⟩
  · exact Text.isItemSeparator_eq_false_iff.mp (Text.isItemSeparator_of_mem_items isItem inItem)
  · exact noArrow (arrow.trans (Text.infix_of_mem_items isItem))

theorem toNat_of_isWordChar {c : Char} (word : isWordChar c = true) :
    0x41 ≤ c.toNat ∧ c.toNat ≤ 0x7A := by
  delta isWordChar Char.isAlpha Char.isUpper Char.isLower at word
  simp only [Bool.or_eq_true, Bool.and_eq_true, decide_eq_true_eq, beq_iff_eq] at word
  rcases word with (⟨low, high⟩ | ⟨low, high⟩) | rfl
  · exact ⟨low, high.trans (by decide)⟩
  · exact ⟨le_trans (by decide) low, high⟩
  · decide

theorem isWordChar_of_isBlank {c : Char} (blank : Text.isBlank c = true) :
    isWordChar c = false := by
  by_contra word
  obtain ⟨low, high⟩ := toNat_of_isWordChar (Bool.not_eq_false _ ▸ word)
  simp only [Text.isBlank, Bool.or_eq_true, Bool.and_eq_true, decide_eq_true_eq,
    beq_iff_eq] at blank
  omega

/-- A declaration has a word in front of its first colon, with nothing but blanks between. -/
theorem cutAtColon?_eq_some_iff {text word body : List Char} :
    cutAtColon? text = some (word, body) ↔
      word ≠ [] ∧ (∀ c ∈ word, isWordChar c = true) ∧
        ∃ blanks, (∀ c ∈ blanks, Text.isBlank c = true) ∧ text = word ++ blanks ++ ':' :: body := by
  constructor
  · intro cut
    unfold cutAtColon? at cut
    split at cut
    next rest shape =>
      dsimp only at cut
      split at cut
      · contradiction
      next nonempty =>
        cases cut
        refine ⟨nonempty, fun c => List.mem_takeWhile_imp,
          (text.dropWhile isWordChar).takeWhile Text.isBlank, fun c => List.mem_takeWhile_imp, ?_⟩
        rw [List.append_assoc, ← shape, Text.stripStart, List.takeWhile_append_dropWhile,
          List.takeWhile_append_dropWhile]
    · contradiction
  · rintro ⟨nonempty, isWord, blanks, areBlank, rfl⟩
    have stops : ∃ d tail, blanks ++ ':' :: body = d :: tail ∧ ¬ isWordChar d = true := by
      cases blanks with
      | nil => exact ⟨':', body, rfl, by decide⟩
      | cons d more =>
          exact ⟨d, more ++ ':' :: body, rfl,
            by simp [isWordChar_of_isBlank (areBlank d List.mem_cons_self)]⟩
    obtain ⟨d, tail, shape, notWord⟩ := stops
    have taken : (word ++ (blanks ++ ':' :: body)).takeWhile isWordChar = word := by
      rw [List.takeWhile_append_of_pos isWord, shape, List.takeWhile_cons_of_neg notWord,
        List.append_nil]
    have dropped :
        (word ++ (blanks ++ ':' :: body)).dropWhile isWordChar = blanks ++ ':' :: body := by
      rw [List.dropWhile_append_of_pos isWord, shape, List.dropWhile_cons_of_neg notWord]
    have stripped : Text.stripStart (blanks ++ ':' :: body) = ':' :: body := by
      rw [Text.stripStart, List.dropWhile_append_of_pos areBlank]
      rfl
    rw [List.append_assoc]
    simp only [cutAtColon?, taken, dropped, stripped, if_neg nonempty]

theorem suffix_of_cutAtColon? {text word body : List Char}
    (cut : cutAtColon? text = some (word, body)) : ':' :: body <:+ text := by
  obtain ⟨_, _, blanks, _, rfl⟩ := cutAtColon?_eq_some_iff.mp cut
  exact List.suffix_append _ _

theorem readDeclaration_eq_ok_iff {kind : Section} {items : List String}
    {statement : Statement} :
    readDeclaration kind items = .ok statement ↔ statement = .declare kind items ∧
      (kind = .alphabet → ∀ item ∈ items, item.length = 1) := by
  unfold readDeclaration
  split
  next symbol found =>
    have long := List.find?_some found
    have membership := List.mem_of_find?_eq_some found
    simp only [reduceCtorEq, false_iff, not_and, forall_const]
    intro _ short
    simp [short symbol membership] at long
  next other =>
    simp only [Except.ok.injEq, eq_comm (a := statement), iff_self_and]
    rintro _ rfl item membership
    cases found : items.find? fun item => item.length ≠ 1 with
    | some symbol => exact (other symbol rfl found).elim
    | none => simpa using List.find?_eq_none.mp found item membership

/-- All that a line can be: a rule if it has an arrow, and otherwise a declaration. -/
theorem readStatement_eq_ok_iff {text : List Char} {statement : Statement} :
    readStatement text = .ok statement ↔
      (∃ before after, Line.cutAtArrow? text = some (before, after) ∧
        readRule before after = .ok statement) ∨
      (Line.cutAtArrow? text = none ∧ ∃ word body kind,
        cutAtColon? text = some (word, body) ∧ sectionNamed? word = some kind ∧
          readDeclaration kind (itemNames body) = .ok statement) := by
  unfold readStatement
  rcases Line.cutAtArrow? text with _ | ⟨before, after⟩
  · rcases cutAtColon? text with _ | ⟨word, body⟩
    · simp
    · cases named : sectionNamed? word with
      | none => simp [named]
      | some kind => simp [named]
  · simp

theorem named_of_readStatement {text : List Char} {statement : Statement}
    (read : readStatement text = .ok statement) : statement.Named := by
  rcases readStatement_eq_ok_iff.mp read with
    ⟨before, after, _, rule⟩ | ⟨uncut, word, body, kind, cut, _, declaration⟩
  · unfold readRule at rule
    split at rule
    · cases rule
      exact trivial
    · contradiction
  · have bodySuffix : body <:+ text :=
      (List.suffix_cons ':' body).trans (suffix_of_cutAtColon? cut)
    have noArrow : ¬ ['-', '>'] <:+: body := fun arrow =>
      Line.cutAtArrow?_eq_none_iff.mp uncut (arrow.trans bodySuffix.isInfix)
    obtain ⟨rfl, short⟩ := readDeclaration_eq_ok_iff.mp declaration
    exact ⟨fun item => isItem_of_mem_itemNames noArrow, short⟩

/-- The names of a draft can stand as items, and none is declared twice. -/
structure WellNamed (draft : Draft) : Prop where
  states_nodup : draft.states.Nodup
  alphabet_nodup : draft.alphabet.Nodup
  state_isItem : ∀ state ∈ draft.states, IsItem state.toList
  symbol_isItem : ∀ symbol ∈ draft.alphabet, IsItem symbol.toList
  symbol_length : ∀ symbol ∈ draft.alphabet, symbol.length = 1

theorem WellNamed.extend {draft : Draft} {number : Nat} {statement : Statement}
    (wellNamed : WellNamed draft) (named : statement.Named) (fits : statement.Fits draft) :
    WellNamed (statement.extend draft number) := by
  cases statement with
  | rule source symbol target => exact { wellNamed with }
  | declare kind items =>
      obtain ⟨areItems, single⟩ := named
      cases kind with
      | states =>
          refine { wellNamed with
            states_nodup := nodup_append_of_fresh wellNamed.states_nodup fits.1 fits.2
            state_isItem := fun state membership => ?_ }
          rcases List.mem_append.mp membership with earlier | declared
          · exact wellNamed.state_isItem state earlier
          · exact areItems state declared
      | alphabet =>
          refine { wellNamed with
            alphabet_nodup := nodup_append_of_fresh wellNamed.alphabet_nodup fits.1 fits.2
            symbol_isItem := fun symbol membership => ?_
            symbol_length := fun symbol membership => ?_ }
          · rcases List.mem_append.mp membership with earlier | declared
            · exact wellNamed.symbol_isItem symbol earlier
            · exact areItems symbol declared
          · rcases List.mem_append.mp membership with earlier | declared
            · exact wellNamed.symbol_length symbol earlier
            · exact single rfl symbol declared
      | start => exact { wellNamed with }
      | accepting => exact { wellNamed with }

theorem WellNamed.addLine {draft extended : Draft} {line : Line} (wellNamed : WellNamed draft)
    (added : addLine draft line = .ok extended) : WellNamed extended := by
  obtain ⟨statement, read, fits, rfl⟩ := addLine_eq_ok_iff.mp added
  exact wellNamed.extend (named_of_readStatement read) fits

theorem wellNamed_of_read {lines : List Line} {draft : Draft}
    (accepted : read lines = .ok draft) : WellNamed draft := by
  have start : WellNamed {} := by constructor <;> simp
  exact Draft.holds_of_addLines WellNamed (fun _ _ _ _ => WellNamed.addLine) start accepted

end Acceptor.Keyword
