import Acceptor.Definition.Reader
import Acceptor.Proofs.Result
import Acceptor.Proofs.Text.Pieces

/-!
The significant lines of a definition, the form that they give it, and what becomes of a draft
when they are added to it.
-/

namespace Acceptor

namespace Line

/-! ## Arrows -/

theorem arrow_infix_cons_iff {c : Char} {text : List Char} :
    ['-', '>'] <:+: c :: text ↔
      (∃ others, c = '-' ∧ text = '>' :: others) ∨ ['-', '>'] <:+: text := by
  rw [List.infix_cons_iff, List.cons_prefix_cons]
  refine or_congr_left ?_
  constructor
  · rintro ⟨rfl, others, rfl⟩
    exact ⟨others, rfl, rfl⟩
  · rintro ⟨others, rfl, rfl⟩
    exact ⟨rfl, others, rfl⟩

theorem cutAtArrow?_eq_none_iff {text : List Char} :
    cutAtArrow? text = none ↔ ¬ ['-', '>'] <:+: text := by
  fun_induction cutAtArrow? text with
  | case1 rest => simp [arrow_infix_cons_iff]
  | case2 c rest notArrow inductionHypothesis =>
      have noTip : ¬ ∃ others, c = '-' ∧ rest = '>' :: others := by
        rintro ⟨others, dash, tip⟩
        exact notArrow others dash tip
      rw [Option.map_eq_none_iff, inductionHypothesis, arrow_infix_cons_iff, or_iff_right noTip]
  | case3 => decide

/-- A text is cut at its first arrow. -/
theorem cutAtArrow?_eq_some_iff {text before after : List Char} :
    cutAtArrow? text = some (before, after) ↔
      text = before ++ '-' :: '>' :: after ∧ ¬ ['-', '>'] <:+: before := by
  constructor
  · intro found
    refine ⟨eq_of_cutAtArrow? found, ?_⟩
    fun_induction cutAtArrow? text generalizing before with
    | case1 rest =>
        cases found
        decide
    | case2 c rest notArrow inductionHypothesis =>
        obtain ⟨⟨first, second⟩, search, equality⟩ := Option.map_eq_some_iff.mp found
        cases equality
        rw [arrow_infix_cons_iff, not_or]
        refine ⟨?_, inductionHypothesis search⟩
        rintro ⟨others, rfl, rfl⟩
        exact notArrow (others ++ '-' :: '>' :: after) rfl (eq_of_cutAtArrow? search)
    | case3 => contradiction
  · rintro ⟨rfl, absent⟩
    induction before with
    | nil => rfl
    | cons c rest inductionHypothesis =>
        rw [arrow_infix_cons_iff, not_or] at absent
        rw [List.cons_append, cutAtArrow?, inductionHypothesis absent.2]
        · rfl
        · -- The dash of the arrow that follows is not the tip of another.
          rintro others rfl equality
          cases rest with
          | nil => exact absurd (List.cons.inj equality).1 (by decide)
          | cons d tail =>
              obtain rfl : d = '>' := (List.cons.inj equality).1
              exact absent.1 ⟨tail, rfl, rfl⟩

/-- An arrow cannot reach over a character that is no part of one. -/
theorem cutAtArrow?_append_cons {before : List Char} {c : Char}
    (clean : cutAtArrow? before = none) (notDash : c ≠ '-') (notTip : c ≠ '>')
    (after : List Char) :
    cutAtArrow? (before ++ c :: after) =
      (cutAtArrow? after).map fun (first, second) => (before ++ c :: first, second) := by
  induction before with
  | nil =>
      rw [List.nil_append, cutAtArrow?]
      · rfl
      · exact fun _ equality _ => notDash equality
  | cons d rest inductionHypothesis =>
      -- A dash in front of the character cannot be joined to a tip behind it.
      have noArrow : ∀ others, d = '-' → rest ++ c :: after ≠ '>' :: others := by
        rintro others rfl equality
        cases rest with
        | nil => exact notTip (List.cons.inj equality).1
        | cons e tail =>
            have tip : e = '>' := (List.cons.inj equality).1
            simp [tip, cutAtArrow?] at clean
      have cleanRest : cutAtArrow? rest = none := by
        unfold cutAtArrow? at clean
        split at clean
        · contradiction
        next equality =>
          cases equality
          simpa using clean
        next impossible => contradiction
      rw [List.cons_append, cutAtArrow?]
      · rw [inductionHypothesis cleanRest, Option.map_map]
        rfl
      · exact noArrow

theorem cutAtArrow?_eq_none_of_append {before after : List Char} {c : Char}
    (clean : cutAtArrow? before = none) (notDash : c ≠ '-') (notTip : c ≠ '>')
    (cleanAfter : cutAtArrow? after = none) : cutAtArrow? (before ++ c :: after) = none := by
  rw [cutAtArrow?_append_cons clean notDash notTip, cleanAfter]
  rfl

theorem cutAtArrow?_cons_eq_none {c : Char} {after : List Char} (notDash : c ≠ '-')
    (clean : cutAtArrow? after = none) : cutAtArrow? (c :: after) = none := by
  rw [cutAtArrow?, clean]
  · rfl
  · exact fun _ equality _ => notDash equality

theorem cutAtArrow?_append_eq_none {before after : List Char}
    (notDash : ∀ c ∈ before, c ≠ '-') (clean : cutAtArrow? after = none) :
    cutAtArrow? (before ++ after) = none := by
  induction before with
  | nil => exact clean
  | cons c rest inductionHypothesis =>
      apply cutAtArrow?_cons_eq_none (notDash c List.mem_cons_self)
      exact inductionHypothesis fun d membership =>
        notDash d (List.mem_cons_of_mem c membership)

/-- Names with separators between them have no arrow if none of the names has one. -/
theorem cutAtArrow?_intercalate {c : Char} {more : List Char} {names : List (List Char)}
    (notTip : c ≠ '>') (notDash : ∀ d ∈ c :: more, d ≠ '-')
    (clean : ∀ name ∈ names, cutAtArrow? name = none) :
    cutAtArrow? ((c :: more).intercalate names) = none := by
  induction names with
  | nil => rfl
  | cons name rest inductionHypothesis =>
      cases rest with
      | nil => simpa using clean name List.mem_cons_self
      | cons second others =>
          rw [List.intercalate_cons_cons, List.append_assoc, List.cons_append]
          apply cutAtArrow?_eq_none_of_append (clean name List.mem_cons_self)
            (notDash c List.mem_cons_self) notTip
          apply cutAtArrow?_append_eq_none fun d membership =>
            notDash d (List.mem_cons_of_mem c membership)
          exact inductionHypothesis fun other membership =>
            clean other (List.mem_cons_of_mem name membership)

/-! ## Significant lines -/

structure Clean (marker : CommentMarker) (text : List Char) : Prop where
  ne_nil : text ≠ []
  not_comment : text.head? ≠ some marker.char
  stripped : Text.strip text = text
  unbroken : '\n' ∉ text
  no_return : '\r' ∉ text

variable {marker : CommentMarker}

theorem isSignificant_iff {line : Line} :
    line.isSignificant marker = true ↔
      line.text ≠ [] ∧ line.text.head? ≠ some marker.char := by
  unfold isSignificant
  split
  next empty => simp [empty]
  next c rest shape => simp [shape]

theorem clean_of_mem_significant {text : List Char} {line : Line}
    (membership : line ∈ significant marker text) : Clean marker line.text := by
  obtain ⟨inAll, kept⟩ := List.mem_filter.mp membership
  obtain ⟨nonempty, notComment⟩ := isSignificant_iff.mp kept
  obtain ⟨⟨piece, number⟩, inNumbered, rfl⟩ := List.mem_map.mp inAll
  have isPiece : piece ∈ Text.lines (Text.unifyNewlines text) :=
    List.fst_mem_of_mem_zipIdx inNumbered
  refine ⟨nonempty, notComment, Text.strip_strip piece, fun inLine => ?_, fun inLine => ?_⟩
  · have clean :=
      Text.not_isSeparator_of_mem_splitWhere isPiece (Text.mem_of_mem_strip inLine)
    simp at clean
  · exact Text.return_not_mem_unifyNewlines text
      (Text.mem_of_mem_splitWhere isPiece (Text.mem_of_mem_strip inLine))

/-- The number of a significant line tells which row of the text it is. -/
theorem exists_row_of_mem_significant {text : List Char} {line : Line}
    (membership : line ∈ significant marker text) :
    ∃ place row, (Text.lines (Text.unifyNewlines text))[place]? = some row ∧
      line = { number := place + 1, text := Text.strip row } := by
  obtain ⟨⟨row, number⟩, inNumbered, rfl⟩ := List.mem_map.mp (List.mem_filter.mp membership).1
  obtain ⟨place, found⟩ := List.mem_iff_getElem?.mp inNumbered
  rw [List.getElem?_zipIdx] at found
  obtain ⟨_, isRow, equality⟩ := Option.map_eq_some_iff.mp found
  cases equality
  exact ⟨place, row, isRow, by rw [Nat.add_comm]⟩

def numbered (first : Nat) (rows : List (List Char)) : List Line :=
  (rows.zipIdx first).map fun (row, number) => { number, text := row }

theorem numbered_cons (first : Nat) (row : List Char) (rest : List (List Char)) :
    numbered first (row :: rest) =
      { number := first, text := row } :: numbered (first + 1) rest := rfl

/-- A row that a reader finds as a line when it is printed. -/
structure IsPrinted (marker : CommentMarker) (row : List Char) : Prop where
  unbroken : '\n' ∉ row
  no_return : '\r' ∉ row
  visible : ∃ c, (Text.strip row).head? = some c ∧ c ≠ marker.char

theorem isPrinted_of_forall {row : List Char} (plain : ∀ c ∈ row, c ≠ '\n' ∧ c ≠ '\r')
    {c : Char} (head : (Text.strip row).head? = some c) (notComment : c ≠ marker.char) :
    IsPrinted marker row where
  unbroken := fun membership => (plain _ membership).1 rfl
  no_return := fun membership => (plain _ membership).2 rfl
  visible := ⟨c, head, notComment⟩

theorem IsPrinted.isSignificant {row : List Char} (isPrinted : IsPrinted marker row)
    (number : Nat) : isSignificant marker { number, text := Text.strip row } = true := by
  obtain ⟨c, head, notComment⟩ := isPrinted.visible
  refine isSignificant_iff.mpr ⟨fun empty => ?_, fun comment => ?_⟩
  · rw [show Text.strip row = [] from empty] at head
    contradiction
  · exact notComment (Option.some.inj (head.symm.trans comment))

/-- Rows that are printed one after another, each with its end, are the significant lines of
the text. -/
theorem significant_flatMap {rows : List (List Char)}
    (printed : ∀ row ∈ rows, IsPrinted marker row) :
    significant marker (rows.flatMap (· ++ ['\n'])) = numbered 1 (rows.map Text.strip) := by
  have plain : '\r' ∉ rows.flatMap (· ++ ['\n']) := by
    intro membership
    obtain ⟨row, inRows, inRow⟩ := List.mem_flatMap.mp membership
    simp [(printed row inRows).no_return] at inRow
  rw [significant, all, Text.unifyNewlines_of_not_mem plain,
    Text.lines_flatMap fun row inRows => (printed row inRows).unbroken, List.zipIdx_append,
    List.map_append, List.filter_append]
  have first : ((rows.zipIdx 1).map fun (text, number) =>
      ({ number, text := Text.strip text } : Line)) = numbered 1 (rows.map Text.strip) := by
    rw [numbered, List.zipIdx_map, List.map_map]
    rfl
  rw [← first, List.filter_eq_self.mpr]
  · exact List.append_nil _
  · intro line membership
    obtain ⟨⟨row, number⟩, inNumbered, rfl⟩ := List.mem_map.mp membership
    exact (printed row (List.fst_mem_of_mem_zipIdx inNumbered)).isSignificant number

end Line

namespace Draft

/-- The first significant line has a colon or an arrow. -/
def IsKeywordForm (marker : CommentMarker) (text : String) : Prop :=
  ∃ first rest, Line.significant marker text.toList = first :: rest ∧
    (':' ∈ first.text ∨ ['-', '>'] <:+: first.text)

/-- The first significant line has neither a colon nor an arrow. -/
def IsTableForm (marker : CommentMarker) (text : String) : Prop :=
  ∃ first rest, Line.significant marker text.toList = first :: rest ∧
    ':' ∉ first.text ∧ ¬ ['-', '>'] <:+: first.text

theorem opensKeywordForm_iff {line : Line} :
    opensKeywordForm line = true ↔ ':' ∈ line.text ∨ ['-', '>'] <:+: line.text := by
  rw [opensKeywordForm, Bool.or_eq_true, List.contains_iff_mem]
  refine or_congr_right ?_
  rw [← Decidable.not_iff_not, Bool.not_eq_true, Option.isSome_eq_false_iff,
    Option.isNone_iff_eq_none]
  exact Line.cutAtArrow?_eq_none_iff

instance (marker : CommentMarker) (text : String) : Decidable (IsKeywordForm marker text) :=
  decidable_of_iff
    ((Line.significant marker text.toList).head?.any opensKeywordForm = true) <| by
      unfold IsKeywordForm
      cases Line.significant marker text.toList with
      | nil => simp
      | cons first rest => simp [opensKeywordForm_iff]

theorem ofText_of_isKeywordForm {marker : CommentMarker} {text : String}
    (isKeywordForm : IsKeywordForm marker text) :
    ofText marker text = Keyword.read (Line.significant marker text.toList) := by
  obtain ⟨first, rest, lines, opens⟩ := isKeywordForm
  rw [ofText, lines, ofLines, if_pos (opensKeywordForm_iff.mpr opens)]

theorem ofText_of_isTableForm {marker : CommentMarker} {text : String}
    (isTableForm : IsTableForm marker text) :
    ofText marker text = Grid.read (Line.significant marker text.toList) := by
  obtain ⟨first, rest, lines, noColon, noArrow⟩ := isTableForm
  have closed : ¬ opensKeywordForm first = true := fun opens =>
    (opensKeywordForm_iff.mp opens).elim noColon noArrow
  rw [ofText, lines, ofLines, if_neg closed]

/-! ## Lines added in order -/

section

variable {addLine : Draft → Line → Except LineFault Draft} {draft result : Draft}
  {line : Line} {lines rest : List Line}

@[simp] theorem addLines_nil : addLines addLine draft [] = .ok draft := rfl

theorem addLines_cons_eq_ok_iff :
    addLines addLine draft (line :: rest) = .ok result ↔ ∃ extended,
      addLine draft line = .ok extended ∧ addLines addLine extended rest = .ok result := by
  rw [addLines, List.foldlM_cons, Except.bind_eq_ok_iff]
  simp only [Except.mapError_eq_ok_iff]

theorem addLines_append (lines more : List Line) :
    addLines addLine draft (lines ++ more) =
      addLines addLine draft lines >>= (addLines addLine · more) :=
  List.foldlM_append

theorem addLines_singleton :
    addLines addLine draft [line] = (addLine draft line).mapError line.malformed := by
  rw [addLines, List.foldlM_cons]
  exact bind_pure _

/-- What each of the lines keeps, all of them keep. -/
theorem holds_of_addLines (Holds : Draft → Prop)
    (keeps : ∀ line ∈ lines, ∀ draft extended, Holds draft → addLine draft line = .ok extended →
      Holds extended)
    (start : Holds draft) (added : addLines addLine draft lines = .ok result) : Holds result := by
  induction lines generalizing draft with
  | nil =>
      cases added
      exact start
  | cons line rest inductionHypothesis =>
      obtain ⟨keepsFirst, keepsRest⟩ := List.forall_mem_cons.mp keeps
      obtain ⟨middle, addedLine, addedRest⟩ := addLines_cons_eq_ok_iff.mp added
      exact inductionHypothesis keepsRest (keepsFirst draft middle start addedLine) addedRest

end

end Draft

end Acceptor
