import Mathlib.Data.List.Induction
import Acceptor.Proofs.Definition.Rows

/-!
The line that a refused text is refused for.

It is the first that cannot be read: the rows before it are a text that is read, and nothing that
comes after it has any effect.
-/

namespace Acceptor.Draft

variable {marker : CommentMarker} {text : String} {fault : MalformedLine}

/-- Among rows that are not read there is one with which the fault appears. -/
theorem exists_row_of_ofLines_eq_error {rows : List (List Char)}
    (failed : ofLines (Line.ofRows marker rows) = .error fault) :
    ∃ before row after, rows = before ++ row :: after ∧ ¬ Line.IsSkipped marker row ∧
      fault.number = before.length + 1 ∧ fault.text = String.ofList (Text.strip row) ∧
      (∃ draft, ofLines (Line.ofRows marker before) = .ok draft) ∧
      ofLines (Line.ofRows marker (before ++ [row])) = .error fault := by
  induction rows using List.reverseRecOn with
  | nil => contradiction
  | append_singleton rows last inductionHypothesis =>
      cases read : ofLines (Line.ofRows marker rows) with
      | error earlier =>
          -- The fault was there without the last row.
          obtain ⟨later, lines⟩ := Line.exists_ofRows_append marker rows [last]
          rw [lines, ofLines_append_of_error read, Except.error.injEq] at failed
          subst failed
          obtain ⟨before, row, after, rfl, found⟩ := inductionHypothesis read
          exact ⟨before, row, after ++ [last], by simp, found⟩
      | ok draft =>
          have isRead : ¬ Line.IsSkipped marker last := by
            intro isSkipped
            rw [Line.ofRows_concat_of_isSkipped isSkipped, read] at failed
            contradiction
          have added := Line.ofRows_concat_of_not_isSkipped isRead rows
          obtain ⟨number, textEq⟩ := isAt_of_ofLines_concat read (added ▸ failed)
          exact ⟨rows, last, [], rfl, isRead, number, textEq, ⟨draft, read⟩, failed⟩

/-- The fault is that of the first row that cannot be read, and it is the text up to this row that
causes it. -/
structure IsFirstFault (marker : CommentMarker) (text : String) (fault : MalformedLine) :
    Prop where
  number_pos : 1 ≤ fault.number
  number_le : fault.number ≤ (Text.rows text).length
  row : ∃ row, (Text.rows text)[fault.number - 1]? = some row ∧
    fault.text = String.ofList (Text.strip row) ∧ ¬ Line.IsSkipped marker row
  read_before : ∀ other, Text.ConsistsOf other ((Text.rows text).take (fault.number - 1)) →
    ∃ draft, ofText marker other = .ok draft
  whatever_follows : ∀ other,
    (Text.rows other).take fault.number = (Text.rows text).take fault.number →
      ofText marker other = .error fault

/-- A text is refused for the first of its lines that cannot be read. -/
theorem isFirstFault_of_ofText (failed : ofText marker text = .error fault) :
    IsFirstFault marker text fault := by
  rw [ofText_eq_ofRows] at failed
  obtain ⟨before, row, after, rows, isRead, number, textEq, ⟨draft, read⟩, failedHere⟩ :=
    exists_row_of_ofLines_eq_error failed
  have upTo : (Text.rows text).take fault.number = before ++ [row] := by
    rw [rows, number, List.append_cons]
    exact List.take_left' (by simp)
  refine ⟨?_, ?_, ⟨row, ?_, textEq, isRead⟩, ?_, ?_⟩
  · omega
  · simp [rows, number]
  · simp [rows, number]
  · intro other consistsOf
    rw [rows, number, Nat.add_sub_cancel, List.take_left] at consistsOf
    exact ⟨draft, (ofText_of_consistsOf consistsOf).trans read⟩
  · intro other same
    obtain ⟨later, lines⟩ := Line.exists_ofRows_append marker (before ++ [row])
      ((Text.rows other).drop fault.number)
    rw [ofText_eq_ofRows, ← List.take_append_drop fault.number (Text.rows other), same, upTo,
      lines, ofLines_append_of_error failedHere]

def twiceStartedText : String :=
  "0\n# two starts\n\n-,s,s\r\n -,t,s \nnot even a row"

theorem isFirstFault_twiceStartedText :
    ofText default twiceStartedText = .error ⟨5, "-,t,s", .secondStart⟩ ∧
      IsFirstFault default twiceStartedText ⟨5, "-,t,s", .secondStart⟩ := by
  have failed : ofText default twiceStartedText = .error ⟨5, "-,t,s", .secondStart⟩ := by
    decide +kernel
  exact ⟨failed, isFirstFault_of_ofText failed⟩

end Acceptor.Draft
