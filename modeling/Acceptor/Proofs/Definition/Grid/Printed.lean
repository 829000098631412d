import Acceptor.Definition.Grid.Printer
import Acceptor.Proofs.Automaton.Transitions
import Acceptor.Proofs.Definition.Grid.Reader

/-!
Printed tables, line by line: each of them is a significant line just as it stands, and is
read as what it was printed from.
-/

namespace Acceptor.Grid

variable {marker : CommentMarker} {automaton : Automaton} {state : String}

/-! ## Cells -/

/-- Can stand in a cell as it is, where a cell may also be empty. -/
structure IsPlain (cell : List Char) : Prop where
  not_separator : ∀ c ∈ cell, c ≠ ',' ∧ c ≠ '\n' ∧ c ≠ '\r'
  stripped : Text.strip cell = cell

theorem isPlain_nil : IsPlain [] :=
  ⟨fun _ membership => absurd membership List.not_mem_nil, rfl⟩

theorem IsCell.isPlain {name : List Char} (isCell : IsCell name) : IsPlain name :=
  ⟨isCell.not_separator, Text.strip_eq_self isCell.head_not_blank isCell.last_not_blank⟩

theorem isPlain_singleton {symbol : Char} (notComma : symbol ≠ ',')
    (visible : Text.isBlank symbol = false) : IsPlain [symbol] := by
  obtain ⟨notNewline, notReturn⟩ := Text.not_line_end_of_visible visible
  constructor
  · intro c membership
    rw [List.mem_singleton.mp membership]
    exact ⟨notComma, notNewline, notReturn⟩
  · apply Text.strip_eq_self <;> (rintro c equality; cases equality; exact visible)

theorem eq_sign_of_mem_printMark {mark : Mark} {c : Char} (membership : c ∈ printMark mark) :
    c = '-' ∨ c = '+' := by
  rcases List.mem_append.mp membership with inStart | inAccepting
  · split at inStart
    · exact .inl (List.mem_singleton.mp inStart)
    · contradiction
  · split at inAccepting
    · exact .inr (List.mem_singleton.mp inAccepting)
    · contradiction

theorem isPlain_printMark (mark : Mark) : IsPlain (printMark mark) := by
  constructor
  · intro c membership
    rcases eq_sign_of_mem_printMark membership with rfl | rfl <;> decide
  · rcases mark with ⟨start, accepting⟩
    cases start <;> cases accepting <;> rfl

theorem readMark_printMark (mark : Mark) : readMark (printMark mark) = .ok mark := by
  rcases mark with ⟨start, accepting⟩
  cases start <;> cases accepting <;> rfl

/-! ## Lines of cells -/

variable {cells : List (List Char)}

theorem strip_intercalate (plain : ∀ cell ∈ cells, IsPlain cell) :
    Text.strip ([','].intercalate cells) = [','].intercalate cells :=
  Text.strip_intercalate fun cell membership => (plain cell membership).stripped

theorem fields_intercalate (nonempty : cells ≠ []) (plain : ∀ cell ∈ cells, IsPlain cell) :
    Text.fields ([','].intercalate cells) = cells :=
  Text.fields_intercalate nonempty
    (fun cell membership inCell => ((plain cell membership).not_separator _ inCell).1 rfl)
    fun cell membership => (plain cell membership).stripped

theorem isPrinted_intercalate (plain : ∀ cell ∈ cells, IsPlain cell) {c : Char}
    (head : ([','].intercalate cells).head? = some c) (notComment : c ≠ marker.char) :
    Line.IsPrinted marker ([','].intercalate cells) := by
  apply Line.isPrinted_of_forall _ _ notComment
  · intro d membership
    rcases Text.mem_intercalate membership with comma | ⟨cell, inCells, inCell⟩
    · rw [List.mem_singleton.mp comma]
      decide
    · exact ((plain cell inCells).not_separator d inCell).2
  · rw [strip_intercalate plain]
    exact head

/-! ## The header -/

theorem Printable.isPlain_of_mem_header (printable : Printable marker automaton) :
    ∀ cell ∈ automaton.alphabet.map ([·]), IsPlain cell := by
  intro cell membership
  obtain ⟨symbol, inAlphabet, rfl⟩ := List.mem_map.mp membership
  obtain ⟨notComma, _, visible⟩ := printable.symbol_not_separator symbol inAlphabet
  exact isPlain_singleton notComma visible

theorem head?_printHeader (automaton : Automaton) :
    (printHeader automaton).head? = automaton.alphabet.head? := by
  unfold printHeader
  cases automaton.alphabet with
  | nil => rfl
  | cons first rest => cases rest <;> rfl

theorem isPrinted_printHeader (printable : Printable marker automaton) :
    Line.IsPrinted marker (printHeader automaton) := by
  obtain ⟨first, rest, alphabet⟩ := List.exists_cons_of_ne_nil automaton.alphabet_ne_nil
  have head : (printHeader automaton).head? = some first := by
    rw [head?_printHeader, alphabet]
    rfl
  apply isPrinted_intercalate printable.isPlain_of_mem_header head
  rintro rfl
  apply printable.not_comment
  rw [alphabet]
  rfl

theorem readHeader_printHeader (printable : Printable marker automaton) :
    readHeader (printHeader automaton) = .ok (automaton.alphabet.map String.singleton) := by
  have nonempty : automaton.alphabet.map ([·]) ≠ [] := by simp [automaton.alphabet_ne_nil]
  refine readHeader_eq_ok_iff.mpr ⟨?_, fun symbol membership => ?_, ?_⟩
  · rw [printHeader, fields_intercalate nonempty printable.isPlain_of_mem_header, List.map_map]
    exact List.map_congr_left fun symbol _ => String.singleton_eq_ofList
  · obtain ⟨c, _, rfl⟩ := List.mem_map.mp membership
    exact String.length_singleton
  · exact nodup_map_singleton automaton.alphabet_nodup

theorem colon_not_mem_printHeader (printable : Printable marker automaton) :
    ':' ∉ printHeader automaton := by
  intro membership
  rcases Text.mem_intercalate membership with comma | ⟨cell, inHeader, inCell⟩
  · simp at comma
  · obtain ⟨symbol, inAlphabet, rfl⟩ := List.mem_map.mp inHeader
    rw [← List.mem_singleton.mp inCell] at inAlphabet
    exact (printable.symbol_not_separator ':' inAlphabet).2.1 rfl

/-- The commas keep the symbols of an arrow apart. -/
theorem cutAtArrow?_printHeader (automaton : Automaton) :
    Line.cutAtArrow? (printHeader automaton) = none := by
  apply Line.cutAtArrow?_intercalate (by decide) (by simp)
  intro cell membership
  obtain ⟨symbol, _, rfl⟩ := List.mem_map.mp membership
  exact Line.cutAtArrow?_eq_none_iff.mpr fun arrow => by simpa using arrow.length_le

/-! ## Rows -/

def printTarget (automaton : Automaton) (state : String) (symbol : Char) : List Char :=
  ((automaton.next? state symbol).map String.toList).getD []

theorem printRow_eq (automaton : Automaton) (state : String) :
    printRow automaton state = [','].intercalate
      (printMark (markOf automaton state) :: state.toList ::
        automaton.alphabet.map (printTarget automaton state)) := rfl

theorem Printable.isPlain_of_mem_row (printable : Printable marker automaton)
    (known : state ∈ automaton.states) :
    ∀ cell ∈ printMark (markOf automaton state) :: state.toList ::
      automaton.alphabet.map (printTarget automaton state), IsPlain cell := by
  simp only [List.forall_mem_cons, List.forall_mem_map]
  refine ⟨isPlain_printMark _, (printable.state_isCell state known).isPlain, ?_⟩
  intro symbol _
  unfold printTarget
  cases found : automaton.next? state symbol with
  | none => exact isPlain_nil
  | some target =>
      obtain ⟨_, _, targetKnown⟩ := Automaton.endpoints_mem_of_next? found
      exact (printable.state_isCell target targetKnown).isPlain

/-- A row begins with a part of a marker or with a comma. -/
theorem head?_printRow (marker : CommentMarker) (automaton : Automaton) (state : String) :
    ∃ c, (printRow automaton state).head? = some c ∧ c ≠ marker.char := by
  have notMarker : ∀ c ∈ ['-', '+', ','], c ≠ marker.char := by
    intro c membership equality
    have allowed := marker.isMarker_char
    simp only [List.mem_cons, List.not_mem_nil, or_false] at membership
    rcases membership with rfl | rfl | rfl <;> rw [← equality] at allowed <;>
      exact absurd allowed (by decide)
  have head : (printRow automaton state).head? =
      (printMark (markOf automaton state) ++ [',']).head? := by
    rw [printRow_eq, List.intercalate_cons_cons]
    cases printMark (markOf automaton state) <;> rfl
  rw [head]
  rcases markOf automaton state with ⟨start, accepting⟩
  cases start
  · cases accepting
    · exact ⟨',', rfl, notMarker ',' (by simp)⟩
    · exact ⟨'+', rfl, notMarker '+' (by simp)⟩
  · exact ⟨'-', rfl, notMarker '-' (by simp)⟩

theorem isPrinted_printRow (printable : Printable marker automaton)
    (known : state ∈ automaton.states) : Line.IsPrinted marker (printRow automaton state) := by
  obtain ⟨c, head, notComment⟩ : ∃ c, (printRow automaton state).head? = some c ∧
    c ≠ marker.char := head?_printRow marker automaton state
  exact isPrinted_intercalate (printable.isPlain_of_mem_row known) head notComment

def printedRow (automaton : Automaton) (state : String) : Row where
  mark := markOf automaton state
  state := state
  targets := automaton.alphabet.map fun symbol => (automaton.next? state symbol).getD ""

theorem readRow_printRow (printable : Printable marker automaton)
    (known : state ∈ automaton.states) :
    readRow automaton.alphabet.length (printRow automaton state) =
      .ok (printedRow automaton state) := by
  have shape := fields_intercalate (List.cons_ne_nil _ _) (printable.isPlain_of_mem_row known)
  rw [← printRow_eq] at shape
  have read := readRow_eq_ok shape (List.length_map _)
    (readMark_printMark (markOf automaton state)) (printable.state_isCell state known).ne_nil
  have targets : (automaton.alphabet.map (printTarget automaton state)).map String.ofList =
      (printedRow automaton state).targets := by
    rw [List.map_map]
    refine List.map_congr_left fun symbol _ => ?_
    rw [Function.comp_apply, printTarget]
    cases automaton.next? state symbol <;> simp
  rw [read, targets, String.ofList_toList]
  rfl

/-- The rules of a printed row are the transitions from its state. -/
theorem mem_rules_printedRow_iff (printable : Printable marker automaton) {number : Nat}
    {rule : Rule} :
    rule ∈ (printedRow automaton state).rules (automaton.alphabet.map String.singleton)
        number ↔
      ∃ symbol target, automaton.next? state symbol = some target ∧
        rule = { source := state, symbol := String.singleton symbol, target,
                 line? := some number } := by
  rw [Row.rules, printedRow, List.zip_map', List.filterMap_map, List.mem_filterMap]
  constructor
  · rintro ⟨symbol, _, made⟩
    simp only [Function.comp_apply] at made
    cases found : automaton.next? state symbol with
    | none => simp [found] at made
    | some target =>
        refine ⟨symbol, target, found, ?_⟩
        simp only [found, Option.getD_some] at made
        split at made
        · contradiction
        · exact (Option.some.inj made).symm
  · rintro ⟨symbol, target, found, rfl⟩
    obtain ⟨_, inAlphabet, targetKnown⟩ := Automaton.endpoints_mem_of_next? found
    have named : target ≠ "" := by
      rintro rfl
      exact (printable.state_isCell "" targetKnown).ne_nil rfl
    exact ⟨symbol, inAlphabet, by simp [found, named]⟩

end Acceptor.Grid
