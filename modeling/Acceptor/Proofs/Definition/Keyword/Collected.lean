import Acceptor.Proofs.Definition.Keyword.Reader
import Acceptor.Proofs.Result

/-!
What is read of the lines of a definition in keyword form, all of them taken together.

`read_eq_ok_iff` says which lines can be read and what is read of them without going through them
one after another: the draft collects what the statements of the lines declare.
-/

namespace Acceptor.Keyword

/-! ## Statements taken together -/

def Statement.items (kind : Section) : Statement → List String
  | .declare other items => if other = kind then items else []
  | .rule _ _ _ => []

def Statement.rules (number : Nat) : Statement → List Rule
  | .declare _ _ => []
  | .rule source symbol target => [{ source, symbol, target, line? := some number }]

def declared (kind : Section) (statements : List Statement) : List String :=
  statements.flatMap (Statement.items kind)

/-- Statements that can stand together in one definition, whatever their order. -/
structure Consistent (statements : List Statement) : Prop where
  nodup : ∀ kind, (declared kind statements).Nodup
  start_once : (declared .start statements).length ≤ 1
  start_single : ∀ items, .declare .start items ∈ statements → ∃ state, items = [state]

def collect (numbered : List (Nat × Statement)) : Draft where
  states := declared .states (numbered.map Prod.snd)
  alphabet := declared .alphabet (numbered.map Prod.snd)
  start? := (declared .start (numbered.map Prod.snd)).head?
  accepting := declared .accepting (numbered.map Prod.snd)
  rules := numbered.flatMap fun (number, statement) => statement.rules number

theorem declared_concat (kind : Section) (statements : List Statement) (last : Statement) :
    declared kind (statements ++ [last]) = declared kind statements ++ last.items kind := by
  simp [declared]

theorem consistent_nil : Consistent [] := by
  constructor <;> simp [declared]

variable {statements : List Statement} {numbered : List (Nat × Statement)} {last : Statement}

/-- What is asked of a statement that comes after others. -/
theorem fits_collect_iff :
    last.Fits (collect numbered) ↔
      (∀ kind, (last.items kind).Nodup ∧
        ∀ item ∈ last.items kind, item ∉ declared kind (numbered.map Prod.snd)) ∧
      ∀ items, last = .declare .start items →
        declared .start (numbered.map Prod.snd) = [] ∧ ∃ state, items = [state] := by
  cases last with
  | rule source symbol target => simp [Statement.Fits, Statement.items]
  | declare kind items =>
      constructor
      · intro fits
        constructor
        · intro other
          by_cases same : kind = other
          · subst same
            rw [Statement.items, if_pos rfl]
            cases kind with
            | start =>
                obtain ⟨fresh, state, rfl⟩ := fits
                rw [collect, List.head?_eq_none_iff] at fresh
                simp [fresh]
            | states => exact fits
            | alphabet => exact fits
            | accepting => exact fits
          · simp [Statement.items, same]
        · rintro others ⟨⟩
          rwa [Statement.Fits, collect, List.head?_eq_none_iff] at fits
      · rintro ⟨fresh, alone⟩
        have own := fresh kind
        rw [Statement.items, if_pos rfl] at own
        cases kind with
        | start =>
            rw [Statement.Fits, collect, List.head?_eq_none_iff]
            exact alone items rfl
        | states => exact own
        | alphabet => exact own
        | accepting => exact own

theorem consistent_concat_iff :
    Consistent (numbered.map Prod.snd ++ [last]) ↔
      Consistent (numbered.map Prod.snd) ∧ last.Fits (collect numbered) := by
  rw [fits_collect_iff]
  constructor
  · rintro ⟨nodup, once, single⟩
    simp only [declared_concat, List.nodup_append] at nodup
    rw [declared_concat, List.length_append] at once
    refine ⟨⟨fun kind => (nodup kind).1, by omega, fun items membership => ?_⟩, ?_, ?_⟩
    · exact single items (List.mem_append_left _ membership)
    · intro kind
      obtain ⟨_, distinct, fresh⟩ := nodup kind
      exact ⟨distinct, fun item isNew isOld => fresh item isOld item isNew rfl⟩
    · rintro items rfl
      obtain ⟨state, rfl⟩ := single items (by simp)
      refine ⟨List.eq_nil_of_length_eq_zero ?_, state, rfl⟩
      rw [Statement.items, if_pos rfl, List.length_singleton] at once
      omega
  · rintro ⟨⟨nodup, once, single⟩, fresh, alone⟩
    constructor
    · intro kind
      rw [declared_concat]
      exact nodup_append_of_fresh (nodup kind) (fresh kind).1 (fresh kind).2
    · rw [declared_concat]
      cases last with
      | rule source symbol target => simpa [Statement.items] using once
      | declare kind items =>
          by_cases isStart : kind = .start
          · subst isStart
            obtain ⟨none, state, rfl⟩ := alone items rfl
            simp [none, Statement.items]
          · simpa [Statement.items, isStart] using once
    · intro items membership
      rcases List.mem_append.mp membership with earlier | isLast
      · exact single items earlier
      · exact (alone items (List.mem_singleton.mp isLast).symm).2

theorem collect_concat (fits : last.Fits (collect numbered)) (number : Nat) :
    collect (numbered ++ [(number, last)]) = last.extend (collect numbered) number := by
  have collected : collect (numbered ++ [(number, last)]) =
      { states := (collect numbered).states ++ last.items .states
        alphabet := (collect numbered).alphabet ++ last.items .alphabet
        start? := (declared .start (numbered.map Prod.snd) ++ last.items .start).head?
        accepting := (collect numbered).accepting ++ last.items .accepting
        rules := (collect numbered).rules ++ last.rules number } := by
    simp [collect, declared_concat]
  rw [collected]
  cases last with
  | rule source symbol target => simp [Statement.items, Statement.rules, Statement.extend, collect]
  | declare kind items =>
      cases kind with
      | start =>
          have none := fits.1
          rw [collect, List.head?_eq_none_iff] at none
          simp [Statement.items, Statement.rules, Statement.extend, none]
      | states => simp [Statement.items, Statement.rules, Statement.extend, collect]
      | alphabet => simp [Statement.items, Statement.rules, Statement.extend, collect]
      | accepting => simp [Statement.items, Statement.rules, Statement.extend, collect]

/-! ## Lines taken together -/

def IsReadable (line : Line) : Prop :=
  ∃ statement, readStatement line.text = .ok statement

def statementsOn (lines : List Line) : List (Nat × Statement) :=
  lines.filterMap fun line => (readStatement line.text).toOption.map (line.number, ·)

theorem mem_statementsOn_iff {lines : List Line} {number : Nat} {statement : Statement} :
    (number, statement) ∈ statementsOn lines ↔
      ∃ line ∈ lines, line.number = number ∧ readStatement line.text = .ok statement := by
  rw [statementsOn, List.mem_filterMap]
  refine exists_congr fun line => and_congr_right fun _ => ?_
  cases readStatement line.text <;> simp [Except.toOption]

theorem statementsOn_cons {lines : List Line} {line : Line} {statement : Statement}
    (read : readStatement line.text = .ok statement) :
    statementsOn (line :: lines) = (line.number, statement) :: statementsOn lines := by
  simp [statementsOn, read, Except.toOption]

theorem statementsOn_concat {lines : List Line} {line : Line} {statement : Statement}
    (read : readStatement line.text = .ok statement) :
    statementsOn (lines ++ [line]) = statementsOn lines ++ [(line.number, statement)] := by
  simp [statementsOn, read, Except.toOption]

/-- Lines are read exactly if each of them is a statement and the statements can stand together,
and what is read is what they say. -/
theorem read_eq_ok_iff {lines : List Line} {draft : Draft} :
    read lines = .ok draft ↔
      (∀ line ∈ lines, IsReadable line) ∧
        Consistent ((statementsOn lines).map Prod.snd) ∧ draft = collect (statementsOn lines) := by
  unfold read
  induction lines using List.reverseRecOn generalizing draft with
  | nil => simp [statementsOn, consistent_nil, collect, declared, eq_comm]
  | append_singleton lines line inductionHypothesis =>
      rw [Draft.addLines_append, Except.bind_eq_ok_iff]
      simp only [inductionHypothesis, Draft.addLines_cons_eq_ok_iff, addLine_eq_ok_iff]
      constructor
      · rintro ⟨_, ⟨readable, consistent, rfl⟩, _, ⟨statement, isStatement, fits, rfl⟩, ⟨⟩⟩
        rw [statementsOn_concat isStatement, List.map_append, List.map_singleton]
        refine ⟨List.forall_mem_append.mpr ⟨readable, ?_⟩, ?_, ?_⟩
        · exact List.forall_mem_singleton.mpr ⟨statement, isStatement⟩
        · exact consistent_concat_iff.mpr ⟨consistent, fits⟩
        · exact (collect_concat fits line.number).symm
      · rintro ⟨readable, consistent, rfl⟩
        obtain ⟨readableBefore, readableHere⟩ := List.forall_mem_append.mp readable
        obtain ⟨statement, isStatement⟩ := List.forall_mem_singleton.mp readableHere
        rw [statementsOn_concat isStatement, List.map_append, List.map_singleton] at consistent
        obtain ⟨consistentBefore, fits⟩ := consistent_concat_iff.mp consistent
        refine ⟨_, ⟨readableBefore, consistentBefore, rfl⟩, _, ⟨statement, isStatement, fits, rfl⟩,
          ?_⟩
        rw [statementsOn_concat isStatement, collect_concat fits]
        rfl

end Acceptor.Keyword
