import Acceptor.Proofs.Definition.Keyword.Collected
import Acceptor.Proofs.Text.Items

/-!
The grammar of the keyword form.

`Spells` says what a line looks like that has a meaning, and `Compatible` which lines can stand
together.  Both are about the texts of the lines and leave open how, and in what order, they are
read: `ofText_eq_ok_iff_spelled` says that the reader accepts exactly what the grammar allows.
-/

namespace Acceptor

namespace Keyword

/-! ## A line by itself -/

/-- The text of a line that makes the statement.  An arrow makes it a rule even if it has a
colon. -/
inductive Spells : List Char → Statement → Prop
  | rule {before after : List Char} {source symbol target : String}
      (isFirst : ¬ ['-', '>'] <:+: before)
      (origin : Text.HoldsItems before [source.toList, symbol.toList])
      (destination : Text.HoldsItems after [target.toList]) :
      Spells (before ++ '-' :: '>' :: after) (.rule source symbol target)
  | declare {word blanks body : List Char} {kind : Section} {items : List String}
      (noArrow : ¬ ['-', '>'] <:+: word ++ blanks ++ ':' :: body)
      (nonempty : word ≠ []) (isWord : ∀ c ∈ word, isWordChar c = true)
      (areBlank : ∀ c ∈ blanks, Text.isBlank c = true)
      (opens : (word.map Char.toLower, kind) ∈ sectionNames)
      (holds : Text.HoldsItems body (items.map String.toList))
      (symbols : kind = .alphabet → ∀ item ∈ items, item.length = 1)
      (start : kind = .start → items.length = 1) :
      Spells (word ++ blanks ++ ':' :: body) (.declare kind items)

theorem lookup_sectionNames :
    ∀ entry ∈ sectionNames, sectionNames.lookup entry.1 = some entry.2 := by
  decide

theorem sectionNamed?_eq_some_iff {word : List Char} {kind : Section} :
    sectionNamed? word = some kind ↔ (word.map Char.toLower, kind) ∈ sectionNames := by
  constructor
  · intro named
    obtain ⟨before, after, entries, _⟩ := List.lookup_eq_some_iff.mp named
    simp [entries]
  · exact lookup_sectionNames _

theorem itemNames_eq_iff {text : List Char} {names : List String} :
    itemNames text = names ↔ Text.HoldsItems text (names.map String.toList) := by
  rw [← Text.items_eq_iff, itemNames]
  constructor
  · rintro rfl
    simp [List.map_map, Function.comp_def]
  · intro found
    simp [found, List.map_map, Function.comp_def]

theorem readRule_eq_ok_iff {before after : List Char} {statement : Statement} :
    readRule before after = .ok statement ↔
      ∃ source symbol target, itemNames before = [source, symbol] ∧
        itemNames after = [target] ∧ statement = .rule source symbol target := by
  unfold readRule
  split
  next source symbol target origin destination =>
    simp only [origin, destination, Except.ok.injEq]
    constructor
    · rintro rfl
      exact ⟨source, symbol, target, rfl, rfl, rfl⟩
    · rintro ⟨_, _, _, ⟨⟩, ⟨⟩, rfl⟩
      rfl
  next mismatch =>
    refine iff_of_false nofun ?_
    rintro ⟨source, symbol, target, origin, destination, _⟩
    exact mismatch source symbol target origin destination

/-- A line is read as the statement that it spells.  Only the number of start states is seen to
later, when the statement is added to a draft. -/
theorem spells_iff {text : List Char} {statement : Statement} :
    Spells text statement ↔ readStatement text = .ok statement ∧
      ∀ items, statement = .declare .start items → items.length = 1 := by
  rw [readStatement_eq_ok_iff]
  constructor
  · intro spells
    cases spells with
    | @rule before after source symbol target isFirst origin destination =>
        refine ⟨.inl ⟨before, after, Line.cutAtArrow?_eq_some_iff.mpr ⟨rfl, isFirst⟩, ?_⟩, nofun⟩
        exact readRule_eq_ok_iff.mpr ⟨source, symbol, target, itemNames_eq_iff.mpr origin,
          itemNames_eq_iff.mpr destination, rfl⟩
    | @declare word blanks body kind items noArrow nonempty isWord areBlank opens holds symbols
        start =>
        refine ⟨.inr ⟨Line.cutAtArrow?_eq_none_iff.mpr noArrow, word, body, kind, ?_, ?_, ?_⟩, ?_⟩
        · exact cutAtColon?_eq_some_iff.mpr ⟨nonempty, isWord, blanks, areBlank, rfl⟩
        · exact sectionNamed?_eq_some_iff.mpr opens
        · rw [itemNames_eq_iff.mpr holds]
          exact readDeclaration_eq_ok_iff.mpr ⟨rfl, symbols⟩
        · rintro _ ⟨⟩
          exact start rfl
  · rintro ⟨⟨before, after, cut, rule⟩ | ⟨uncut, word, body, kind, cut, named, declaration⟩, start⟩
    · obtain ⟨rfl, isFirst⟩ := Line.cutAtArrow?_eq_some_iff.mp cut
      obtain ⟨source, symbol, target, origin, destination, rfl⟩ := readRule_eq_ok_iff.mp rule
      exact .rule isFirst (itemNames_eq_iff.mp origin) (itemNames_eq_iff.mp destination)
    · obtain ⟨nonempty, isWord, blanks, areBlank, rfl⟩ := cutAtColon?_eq_some_iff.mp cut
      obtain ⟨rfl, symbols⟩ := readDeclaration_eq_ok_iff.mp declaration
      exact .declare (Line.cutAtArrow?_eq_none_iff.mp uncut) nonempty isWord areBlank
        (sectionNamed?_eq_some_iff.mp named) (itemNames_eq_iff.mp rfl) symbols
        (by rintro rfl; exact start _ rfl)

/-! ## Lines together -/

def Statement.isStart : Statement → Bool
  | .declare .start _ => true
  | _ => false

structure Compatible (statements : List Statement) : Prop where
  start_once : statements.countP Statement.isStart ≤ 1
  states_nodup : (declared .states statements).Nodup
  alphabet_nodup : (declared .alphabet statements).Nodup
  accepting_nodup : (declared .accepting statements).Nodup

def Spelled (lines : List Line) (numbered : List (Nat × Statement)) : Prop :=
  List.Forall₂ (fun line (number, statement) =>
    number = line.number ∧ Spells line.text statement) lines numbered

variable {lines : List Line} {numbered : List (Nat × Statement)} {statements : List Statement}

/-- Where each start declaration has one state, there are as many start states as such
declarations. -/
theorem length_declared_start
    (single : ∀ items, .declare .start items ∈ statements → items.length = 1) :
    (declared .start statements).length = statements.countP Statement.isStart := by
  induction statements with
  | nil => rfl
  | cons first rest inductionHypothesis =>
      have others := inductionHypothesis fun items membership =>
        single items (List.mem_cons_of_mem first membership)
      rw [declared, List.flatMap_cons, List.length_append, ← declared, others,
        List.countP_cons, Nat.add_comm]
      congr 1
      cases first with
      | rule source symbol target => rfl
      | declare kind items =>
          cases kind with
          | start => exact single items List.mem_cons_self
          | _ => rfl

theorem consistent_iff_compatible
    (single : ∀ items, .declare .start items ∈ statements → items.length = 1) :
    Consistent statements ↔ Compatible statements := by
  constructor
  · rintro ⟨nodup, once, _⟩
    rw [length_declared_start single] at once
    exact ⟨once, nodup .states, nodup .alphabet, nodup .accepting⟩
  · rintro ⟨once, states, alphabet, accepting⟩
    rw [← length_declared_start single] at once
    refine ⟨fun kind => ?_, once, fun items membership => ?_⟩
    · cases kind with
      | start =>
          rcases starts : declared .start statements with _ | ⟨state, _ | ⟨second, rest⟩⟩
          · exact List.nodup_nil
          · exact List.nodup_singleton state
          · rw [starts, List.length_cons, List.length_cons] at once
            omega
      | states => exact states
      | alphabet => exact alphabet
      | accepting => exact accepting
    · exact List.length_eq_one_iff.mp (single items membership)

theorem spelled_iff :
    Spelled lines numbered ↔ (∀ line ∈ lines, IsReadable line) ∧ numbered = statementsOn lines ∧
      ∀ items, .declare .start items ∈ numbered.map Prod.snd → items.length = 1 := by
  induction lines generalizing numbered with
  | nil =>
      rw [Spelled, List.forall₂_nil_left_iff]
      constructor
      · rintro rfl
        exact ⟨nofun, rfl, nofun⟩
      · exact fun spelled => spelled.2.1
  | cons line rest inductionHypothesis =>
      constructor
      · intro spelled
        obtain ⟨⟨_, statement⟩, others, ⟨rfl, spells⟩, spelledRest, rfl⟩ :=
          List.forall₂_cons_left_iff.mp spelled
        obtain ⟨read, alone⟩ := spells_iff.mp spells
        obtain ⟨readable, rfl, single⟩ := inductionHypothesis.mp spelledRest
        refine ⟨List.forall_mem_cons.mpr ⟨⟨statement, read⟩, readable⟩,
          (statementsOn_cons read).symm, fun items membership => ?_⟩
        rcases List.mem_cons.mp membership with isFirst | inRest
        · exact alone items isFirst.symm
        · exact single items inRest
      · rintro ⟨readable, rfl, single⟩
        obtain ⟨⟨statement, read⟩, readableRest⟩ := List.forall_mem_cons.mp readable
        rw [statementsOn_cons read] at single ⊢
        have spells : Spells line.text statement := spells_iff.mpr
          ⟨read, fun items equality => single items (equality ▸ List.mem_cons_self)⟩
        exact .cons ⟨rfl, spells⟩ (inductionHypothesis.mpr ⟨readableRest, rfl,
          fun items membership => single items (List.mem_cons_of_mem _ membership)⟩)

/-- The lines that can be read are those that spell compatible statements, and what is read is
what they say. -/
theorem read_eq_ok_iff_spelled {draft : Draft} :
    read lines = .ok draft ↔ ∃ numbered, Spelled lines numbered ∧
      Compatible (numbered.map Prod.snd) ∧ draft = collect numbered := by
  rw [read_eq_ok_iff]
  constructor
  · rintro ⟨readable, consistent, rfl⟩
    have single := fun items membership =>
      List.length_eq_one_iff.mpr (consistent.start_single items membership)
    exact ⟨_, spelled_iff.mpr ⟨readable, rfl, single⟩,
      (consistent_iff_compatible single).mp consistent, rfl⟩
  · rintro ⟨_, spelled, compatible, rfl⟩
    obtain ⟨readable, rfl, single⟩ := spelled_iff.mp spelled
    exact ⟨readable, (consistent_iff_compatible single).mpr compatible, rfl⟩

/-- Every rule that is read goes by the number of a line that spells it. -/
theorem exists_line_of_mem_rules (spelled : Spelled lines numbered) {rule : Rule}
    (membership : rule ∈ (collect numbered).rules) :
    ∃ line ∈ lines, rule.line? = some (line.number : Int) ∧
      Spells line.text (.rule rule.source rule.symbol rule.target) := by
  obtain ⟨⟨number, statement⟩, stated, own⟩ := List.mem_flatMap.mp membership
  rw [(spelled_iff.mp spelled).2.1] at stated
  obtain ⟨line, isLine, rfl, read⟩ := mem_statementsOn_iff.mp stated
  cases statement with
  | declare kind items => contradiction
  | rule source symbol target =>
      cases List.mem_singleton.mp own
      exact ⟨line, isLine, rfl, spells_iff.mpr ⟨read, by simp⟩⟩

end Keyword

namespace Draft

open Keyword

variable {marker : CommentMarker} {text : String} {draft : Draft}

/-- The keyword form has exactly its grammar: a text is accepted if each of its significant lines
spells a statement and the statements are compatible, and the draft holds what they declare, in
the order of the text.  Each rule goes by the number of the row that spells it, from one on. -/
theorem ofText_eq_ok_iff_spelled (isKeywordForm : IsKeywordForm marker text) :
    (ofText marker text = .ok draft ↔
      ∃ numbered, Spelled (Line.significant marker text.toList) numbered ∧
        Compatible (numbered.map Prod.snd) ∧ draft = collect numbered) ∧
    (ofText marker text = .ok draft → ∀ rule ∈ draft.rules, ∃ (place : Nat) (row : List Char),
      (Text.lines (Text.unifyNewlines text.toList))[place]? = some row ∧
        rule.line? = some (place + 1 : Int) ∧
        Spells (Text.strip row) (.rule rule.source rule.symbol rule.target)) := by
  rw [ofText_of_isKeywordForm isKeywordForm, read_eq_ok_iff_spelled]
  refine ⟨.rfl, ?_⟩
  rintro ⟨numbered, spelled, _, rfl⟩ rule membership
  obtain ⟨line, significant, number, spells⟩ := exists_line_of_mem_rules spelled membership
  obtain ⟨place, row, isRow, rfl⟩ := Line.exists_row_of_mem_significant significant
  exact ⟨place, row, isRow, number, spells⟩

/-- A definition whose symbols are a colon, a dash and the tip of an arrow. -/
def markedText : String :=
  "# signs\r\nStates: a\nALPHABET : - : >\n\n  b, > -> a\nstates: b,\na : -> b\n" ++
    "Final :b\nstart: a"

def markedDraft : Draft where
  states := ["a", "b"]
  alphabet := ["-", ":", ">"]
  start? := some "a"
  accepting := ["b"]
  rules := [⟨"b", ">", "a", some 5⟩, ⟨"a", ":", "b", some 7⟩]

theorem exists_spelled_markedText :
    IsKeywordForm default markedText ∧ ofText default markedText = .ok markedDraft ∧
      (∃ numbered, Spelled (Line.significant default markedText.toList) numbered ∧
        Compatible (numbered.map Prod.snd) ∧ markedDraft = collect numbered) ∧
      ∀ rule ∈ markedDraft.rules, ∃ (place : Nat) (row : List Char),
        (Text.lines (Text.unifyNewlines markedText.toList))[place]? = some row ∧
          rule.line? = some (place + 1 : Int) ∧
          Spells (Text.strip row) (.rule rule.source rule.symbol rule.target) := by
  have isKeywordForm : IsKeywordForm default markedText := by decide +kernel
  have read : ofText default markedText = .ok markedDraft := by decide +kernel
  exact ⟨isKeywordForm, read, (ofText_eq_ok_iff_spelled isKeywordForm).1.mp read,
    (ofText_eq_ok_iff_spelled isKeywordForm).2 read⟩

end Draft

end Acceptor
