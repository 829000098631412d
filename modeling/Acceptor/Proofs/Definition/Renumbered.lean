import Acceptor.Proofs.Definition.Rows

/-!
Definitions whose lines go by other numbers.

The numbers are copied into rules and faults and looked at nowhere else, so reading the renumbered
lines gives what reading the lines gives, renumbered.
-/

namespace Acceptor

def Rule.renumber (number : Nat → Nat) (rule : Rule) : Rule :=
  { rule with line? := rule.line?.map fun line => (number line.toNat : Int) }

def Draft.renumber (number : Nat → Nat) (draft : Draft) : Draft :=
  { draft with rules := draft.rules.map (Rule.renumber number) }

def MalformedLine.renumber (number : Nat → Nat) (fault : MalformedLine) : MalformedLine :=
  { fault with number := number fault.number }

def Line.renumber (number : Nat → Nat) (line : Line) : Line :=
  { line with number := number line.number }

/-- What is read of a definition, if its lines go by other numbers. -/
def Draft.renumberOutcome (number : Nat → Nat) :
    Except MalformedLine Draft → Except MalformedLine Draft
  | .ok draft => .ok (draft.renumber number)
  | .error fault => .error (fault.renumber number)

section

variable {number : Nat → Nat}

theorem Keyword.addStatement_renumber (draft : Draft) (line : Nat) (statement : Statement) :
    addStatement (draft.renumber number) (number line) statement =
      (addStatement draft line statement).map (Draft.renumber number) := by
  cases statement with
  | rule source symbol target => simp [addStatement, Draft.renumber, Rule.renumber, Except.map]
  | declare kind items =>
      cases kind with
      | states =>
          cases added : addUnique .repeatedState draft.states items <;>
            simp [addStatement, Draft.renumber, added, Except.map]
      | alphabet =>
          cases added : addUnique .repeatedSymbol draft.alphabet items <;>
            simp [addStatement, Draft.renumber, added, Except.map]
      | accepting =>
          cases added : addUnique .repeatedAccepting draft.accepting items <;>
            simp [addStatement, Draft.renumber, added, Except.map]
      | start =>
          by_cases given : draft.start?.isSome = true
          · simp [addStatement, Draft.renumber, given, Except.map]
          · rcases items with _ | ⟨item, _ | ⟨second, others⟩⟩ <;>
              simp [addStatement, Draft.renumber, given, Except.map]

theorem Keyword.addLine_renumber (draft : Draft) (line : Line) :
    addLine (draft.renumber number) (line.renumber number) =
      (addLine draft line).map (Draft.renumber number) := by
  unfold addLine Line.renumber
  cases readStatement line.text with
  | error fault => rfl
  | ok statement => exact addStatement_renumber draft line.number statement

theorem Grid.Row.rules_renumber (alphabet : List String) (line : Nat) (row : Row) :
    row.rules alphabet (number line) = (row.rules alphabet line).map (Rule.renumber number) := by
  unfold Row.rules
  rw [List.map_filterMap]
  congr 1
  funext ⟨symbol, target⟩
  by_cases empty : target = "" <;> simp [empty, Rule.renumber]

theorem Grid.addRow_renumber (draft : Draft) (line : Nat) (row : Row) :
    addRow (draft.renumber number) (number line) row =
      (addRow draft line row).map (Draft.renumber number) := by
  unfold addRow
  simp only [Draft.renumber, Row.rules_renumber]
  split
  · rfl
  · split
    · rfl
    · simp [Except.map, Draft.renumber]

theorem Grid.addLine_renumber (draft : Draft) (line : Line) :
    addLine (draft.renumber number) (line.renumber number) =
      (addLine draft line).map (Draft.renumber number) := by
  unfold addLine Line.renumber
  have width : (draft.renumber number).alphabet.length = draft.alphabet.length := rfl
  rw [width]
  cases readRow draft.alphabet.length line.text with
  | error fault => rfl
  | ok row => exact addRow_renumber draft line.number row

/-- If a line makes no difference between numbers, lines in order make none. -/
theorem Draft.addLines_renumber {addLine : Draft → Line → Except LineFault Draft}
    (addLine_renumber : ∀ draft line, addLine (draft.renumber number) (line.renumber number) =
      (addLine draft line).map (Draft.renumber number)) (draft : Draft) (lines : List Line) :
    addLines addLine (draft.renumber number) (lines.map (Line.renumber number)) =
      renumberOutcome number (addLines addLine draft lines) := by
  induction lines generalizing draft with
  | nil => rfl
  | cons line rest inductionHypothesis =>
      unfold addLines
      rw [List.map_cons, List.foldlM_cons, List.foldlM_cons, addLine_renumber]
      cases addLine draft line with
      | error fault => rfl
      | ok extended => exact inductionHypothesis extended

theorem Keyword.read_renumber (lines : List Line) :
    read (lines.map (Line.renumber number)) = Draft.renumberOutcome number (read lines) :=
  Draft.addLines_renumber addLine_renumber {} lines

theorem Grid.read_renumber (lines : List Line) :
    read (lines.map (Line.renumber number)) = Draft.renumberOutcome number (read lines) := by
  cases lines with
  | nil => rfl
  | cons header rows =>
      rw [List.map_cons, read, read, Line.renumber]
      cases readHeader header.text with
      | error fault => rfl
      | ok alphabet => exact Draft.addLines_renumber addLine_renumber { alphabet } rows

theorem Draft.ofLines_renumber (lines : List Line) :
    ofLines (lines.map (Line.renumber number)) = renumberOutcome number (ofLines lines) := by
  cases lines with
  | nil => rfl
  | cons first rest =>
      have same : opensKeywordForm (first.renumber number) = opensKeywordForm first := rfl
      rw [List.map_cons, ofLines, ofLines, same]
      split
      · exact Keyword.read_renumber (first :: rest)
      · exact Grid.read_renumber (first :: rest)

end

end Acceptor
