import Acceptor.Definition.Grid.Printer
import Acceptor.Proofs.Definition.Lines
import Acceptor.Proofs.Distinct

/-!
Reading the table form of a definition.

`addLine_eq_ok_iff` says all that a line can do to a draft: it is a row that fits the draft,
and the draft is extended by it.  Whatever is read keeps the invariant `CellNamed`.
-/

namespace Acceptor.Grid

/-! ## The alphabet -/

theorem firstRepeat?_eq_none_iff {seen items : List String} :
    firstRepeat? seen items = none ↔ items.Nodup ∧ ∀ item ∈ items, item ∉ seen := by
  induction items generalizing seen with
  | nil => simp [firstRepeat?]
  | cons item rest inductionHypothesis =>
      unfold firstRepeat?
      by_cases repeated : item ∈ seen
      · simp [repeated]
      · rw [if_neg repeated, inductionHypothesis, nodup_fresh_cons_iff repeated]

theorem readHeader_eq_ok_iff {text : List Char} {alphabet : List String} :
    readHeader text = .ok alphabet ↔ alphabet = (Text.fields text).map String.ofList ∧
      (∀ symbol ∈ alphabet, symbol.length = 1) ∧ alphabet.Nodup := by
  unfold readHeader
  dsimp only
  split
  next symbol found =>
    have long := List.find?_some found
    have membership := List.mem_of_find?_eq_some found
    simp only [reduceCtorEq, false_iff]
    rintro ⟨rfl, short, _⟩
    simp [short symbol membership] at long
  next short =>
    have single : ∀ symbol ∈ (Text.fields text).map String.ofList, symbol.length = 1 := by
      intro symbol membership
      simpa using List.find?_eq_none.mp short symbol membership
    split
    next symbol repeated =>
      simp only [reduceCtorEq, false_iff]
      rintro ⟨rfl, _, distinct⟩
      rw [firstRepeat?_eq_none_iff.mpr ⟨distinct, by simp⟩] at repeated
      contradiction
    next distinct =>
      simp only [Except.ok.injEq]
      constructor
      · rintro rfl
        exact ⟨rfl, single, (firstRepeat?_eq_none_iff.mp distinct).1⟩
      · exact fun found => found.1.symm

/-! ## Rows added to drafts -/

theorem readRow_eq_ok {width : Nat} {text marker state : List Char}
    {targets : List (List Char)} {mark : Mark}
    (shape : Text.fields text = marker :: state :: targets) (fitting : targets.length = width)
    (marked : readMark marker = .ok mark) (named : state ≠ []) :
    readRow width text =
      .ok { mark, state := String.ofList state, targets := targets.map String.ofList } := by
  simp [readRow, shape, fitting, marked, named, bind, Except.bind, pure, Except.pure]

theorem exists_fields_of_readRow {width : Nat} {text : List Char} {row : Row}
    (accepted : readRow width text = .ok row) : ∃ marker state targets,
      Text.fields text = marker :: state :: targets ∧ targets.length = width ∧
        readMark marker = .ok row.mark ∧ state ≠ [] ∧ row.state = String.ofList state ∧
          row.targets = targets.map String.ofList := by
  unfold readRow at accepted
  dsimp only at accepted
  split at accepted
  next marker state targets shape =>
    split at accepted
    next fitting =>
      cases marked : readMark marker with
      | error fault => simp [marked, bind, Except.bind] at accepted
      | ok mark =>
          by_cases nameless : state = []
          · simp [marked, nameless, bind, Except.bind, throw, throwThe, MonadExceptOf.throw]
              at accepted
          · have read := readRow_eq_ok shape fitting marked nameless
            simp only [marked, nameless, bind, Except.bind, if_false] at accepted
            cases accepted
            exact ⟨marker, state, targets, shape, fitting, marked, nameless, rfl, rfl⟩
    · contradiction
  · contradiction

def Row.Fits (draft : Draft) (row : Row) : Prop :=
  row.state ∉ draft.states ∧ ¬ (row.mark.start = true ∧ draft.start?.isSome = true)

def Row.extend (draft : Draft) (number : Nat) (row : Row) : Draft :=
  { draft with
    states := draft.states ++ [row.state]
    start? := if row.mark.start then some row.state else draft.start?
    accepting := if row.mark.accepting then draft.accepting ++ [row.state] else draft.accepting
    rules := draft.rules ++ row.rules draft.alphabet number }

theorem addRow_eq_ok_iff {draft extended : Draft} {number : Nat} {row : Row} :
    addRow draft number row = .ok extended ↔
      row.Fits draft ∧ extended = row.extend draft number := by
  unfold addRow Row.Fits
  by_cases repeated : row.state ∈ draft.states
  · simp [repeated]
  · by_cases second : row.mark.start = true ∧ draft.start?.isSome = true
    · simp [repeated, second]
    · rw [if_neg repeated, if_neg second, Except.ok.injEq]
      exact ⟨fun equality => ⟨⟨repeated, second⟩, equality.symm⟩, fun found => found.2.symm⟩

theorem addLine_eq_ok_iff {draft extended : Draft} {line : Line} :
    addLine draft line = .ok extended ↔ ∃ row,
      readRow draft.alphabet.length line.text = .ok row ∧ row.Fits draft ∧
        extended = row.extend draft line.number := by
  rw [addLine, Except.bind_eq_ok_iff]
  simp only [addRow_eq_ok_iff]

theorem read_eq_ok_iff {header : Line} {rows : List Line} {draft : Draft} :
    read (header :: rows) = .ok draft ↔ ∃ alphabet,
      readHeader header.text = .ok alphabet ∧
        Draft.addLines addLine { alphabet } rows = .ok draft := by
  unfold read
  rw [Except.bind_eq_ok_iff]
  simp only [Except.mapError_eq_ok_iff]

/-! ## Names in drafts -/

/-- The names of the states of a draft can stand in cells, and none is declared twice. -/
structure CellNamed (draft : Draft) : Prop where
  states_nodup : draft.states.Nodup
  state_isCell : ∀ state ∈ draft.states, IsCell state.toList

theorem isCell_of_mem_fields {text cell : List Char} (unbroken : '\n' ∉ text)
    (noReturn : '\r' ∉ text) (isField : cell ∈ Text.fields text) (nonempty : cell ≠ []) :
    IsCell cell := by
  have stripped := Text.strip_of_mem_fields isField
  refine ⟨nonempty, fun c membership => ⟨?_, ?_, ?_⟩, fun c head => ?_, fun c last => ?_⟩
  · rintro rfl
    exact Text.comma_not_mem_of_mem_fields isField membership
  · rintro rfl
    exact unbroken (Text.mem_of_mem_fields isField membership)
  · rintro rfl
    exact noReturn (Text.mem_of_mem_fields isField membership)
  · rw [← stripped] at head
    exact Text.isBlank_head_strip head
  · rw [← stripped] at last
    exact Text.isBlank_getLast_strip last

theorem CellNamed.addLine {draft extended : Draft} {line : Line} {marker : CommentMarker}
    (cellNamed : CellNamed draft) (clean : Line.Clean marker line.text)
    (added : addLine draft line = .ok extended) :
    CellNamed extended ∧ extended.alphabet = draft.alphabet := by
  obtain ⟨row, read, ⟨fresh, _⟩, rfl⟩ := addLine_eq_ok_iff.mp added
  obtain ⟨mark, state, targets, shape, _, _, nonempty, name, _⟩ := exists_fields_of_readRow read
  have isField : state ∈ Text.fields line.text := by simp [shape]
  have isCell : IsCell row.state.toList := by
    rw [name, String.toList_ofList]
    exact isCell_of_mem_fields clean.unbroken clean.no_return isField nonempty
  refine ⟨⟨?_, fun other membership => ?_⟩, rfl⟩
  · apply nodup_append_of_fresh cellNamed.states_nodup (List.nodup_singleton _)
    intro state inRow
    rw [List.mem_singleton.mp inRow]
    exact fresh
  · rcases List.mem_append.mp membership with earlier | same
    · exact cellNamed.state_isCell other earlier
    · rw [List.mem_singleton.mp same]
      exact isCell

theorem cellNamed_of_addLines {marker : CommentMarker} {alphabet : List String}
    {rows : List Line} {draft : Draft} (clean : ∀ line ∈ rows, Line.Clean marker line.text)
    (added : Draft.addLines addLine { alphabet } rows = .ok draft) :
    CellNamed draft ∧ draft.alphabet = alphabet := by
  have start : CellNamed { alphabet } := by constructor <;> simp
  refine Draft.holds_of_addLines (fun draft => CellNamed draft ∧ draft.alphabet = alphabet)
    ?_ ⟨start, rfl⟩ added
  rintro row inRows middle extended ⟨cellNamed, sameAlphabet⟩ addedRow
  obtain ⟨extendedNamed, extendedAlphabet⟩ := cellNamed.addLine (clean row inRows) addedRow
  exact ⟨extendedNamed, extendedAlphabet.trans sameAlphabet⟩

/-! ## Symbols of drafts -/

structure HeaderNamed (marker : CommentMarker) (alphabet : List String) : Prop where
  nodup : alphabet.Nodup
  single : ∀ symbol ∈ alphabet, ∃ c, symbol = String.singleton c ∧
    c ≠ ',' ∧ c ≠ ':' ∧ Text.isBlank c = false
  not_comment : alphabet.head? ≠ some (String.singleton marker.char)

theorem headerNamed_of_readHeader {marker : CommentMarker} {text : List Char}
    {alphabet : List String} (clean : Line.Clean marker text) (noColon : ':' ∉ text)
    (accepted : readHeader text = .ok alphabet) : HeaderNamed marker alphabet := by
  obtain ⟨rfl, short, distinct⟩ := readHeader_eq_ok_iff.mp accepted
  have single : ∀ field ∈ Text.fields text, ∃ c, field = [c] := by
    intro field isField
    have length := short _ (List.mem_map_of_mem isField)
    rw [String.length_ofList] at length
    exact List.length_eq_one_iff.mp length
  refine ⟨distinct, fun symbol membership => ?_, fun comment => ?_⟩
  · obtain ⟨field, isField, rfl⟩ := List.mem_map.mp membership
    obtain ⟨c, rfl⟩ := single field isField
    refine ⟨c, String.singleton_eq_ofList.symm, ?_, ?_, ?_⟩
    · rintro rfl
      exact Text.comma_not_mem_of_mem_fields isField List.mem_cons_self
    · rintro rfl
      exact noColon (Text.mem_of_mem_fields isField List.mem_cons_self)
    · apply Text.isBlank_head_strip
      rw [Text.strip_of_mem_fields isField]
      rfl
  · obtain ⟨d, rest, shape⟩ := List.exists_cons_of_ne_nil clean.ne_nil
    have head : text.head? = some d := by rw [shape]; rfl
    have visible : Text.isBlank d = false := by
      apply Text.isBlank_head_strip
      rw [clean.stripped, head]
    cases parts : Text.fields text with
    | nil => simp [parts] at comment
    | cons first others =>
        obtain ⟨c, rfl⟩ := single first (by simp [parts])
        have same := Text.head?_of_fields_eq_cons head visible parts (by simp)
        have marked : c = marker.char := by
          rw [parts, List.map_cons, List.head?_cons, Option.some.injEq,
            String.singleton_eq_ofList, String.ofList_inj] at comment
          exact List.head_eq_of_cons_eq comment
        cases same
        exact clean.not_comment (head.trans (congrArg some marked))

end Acceptor.Grid
