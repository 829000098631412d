import Acceptor.Proofs.Definition.Lines
import Acceptor.Proofs.Result
import Acceptor.Proofs.Text.Rows

/-!
Definitions row by row.

Rows that are blank or comments are counted but not read.  The others are read in order, in the
form that the first of them decides on, up to the first that cannot be read.
-/

namespace Acceptor

namespace Line

def IsSkipped (marker : CommentMarker) (row : List Char) : Prop :=
  (∀ c ∈ row, Text.isBlank c = true) ∨
    ∃ blanks comment, (∀ c ∈ blanks, Text.isBlank c = true) ∧
      row = blanks ++ marker.char :: comment

variable {marker : CommentMarker} {row : List Char}

theorem isBlank_marker (marker : CommentMarker) : Text.isBlank marker.char = false := by
  have allowed := marker.isMarker_char
  rw [isMarker, Bool.and_eq_true, Bool.not_eq_true'] at allowed
  exact allowed.1

/-- Comments are recognised once the blanks around the row are gone. -/
theorem isSkipped_iff (number : Nat) :
    IsSkipped marker row ↔
      ¬ isSignificant marker { number, text := Text.strip row } = true := by
  rw [isSignificant_iff, not_and_or, not_not, not_not, IsSkipped,
    Text.strip_eq_nil_iff, Text.head?_strip_eq_some_iff (isBlank_marker marker)]

instance : Decidable (IsSkipped marker row) :=
  decidable_of_iff' _ (isSkipped_iff 0)

theorem isSkipped_padded_iff {before after : List Char} (blankBefore : Text.AreBlanks before)
    (blankAfter : Text.AreBlanks after) :
    IsSkipped marker (before ++ row ++ after) ↔ IsSkipped marker row := by
  rw [isSkipped_iff 0, Text.strip_padded blankBefore blankAfter, ← isSkipped_iff]

def ofRows (marker : CommentMarker) (rows : List (List Char)) : List Line :=
  (numbered 1 (rows.map Text.strip)).filter (isSignificant marker)

theorem significant_eq_ofRows (marker : CommentMarker) (text : String) :
    significant marker text.toList = ofRows marker (Text.rows text) := by
  rw [significant, all, ofRows, numbered, List.zipIdx_map, List.map_map]
  rfl

theorem numbered_append (first : Nat) (rows more : List (List Char)) :
    numbered first (rows ++ more) = numbered first rows ++ numbered (first + rows.length) more := by
  simp [numbered, List.zipIdx_append]

theorem exists_ofRows_append (marker : CommentMarker) (rows more : List (List Char)) :
    ∃ later, ofRows marker (rows ++ more) = ofRows marker rows ++ later := by
  rw [ofRows, List.map_append, numbered_append, List.filter_append]
  exact ⟨_, rfl⟩

theorem ofRows_concat_eq_filter (marker : CommentMarker) (rows : List (List Char))
    (row : List Char) : ofRows marker (rows ++ [row]) = ofRows marker rows ++
      [{ number := rows.length + 1, text := Text.strip row }].filter (isSignificant marker) := by
  rw [ofRows, List.map_append, numbered_append, List.filter_append, List.length_map, Nat.add_comm]
  rfl

theorem ofRows_concat_of_isSkipped (isSkipped : IsSkipped marker row) (rows : List (List Char)) :
    ofRows marker (rows ++ [row]) = ofRows marker rows := by
  rw [ofRows_concat_eq_filter, List.filter_cons_of_neg ((isSkipped_iff _).mp isSkipped)]
  exact List.append_nil _

theorem ofRows_concat_of_not_isSkipped (isRead : ¬ IsSkipped marker row)
    (rows : List (List Char)) : ofRows marker (rows ++ [row]) =
      ofRows marker rows ++ [{ number := rows.length + 1, text := Text.strip row }] := by
  have significant := not_not.mp (mt (isSkipped_iff (rows.length + 1)).mpr isRead)
  rw [ofRows_concat_eq_filter, List.filter_cons_of_pos significant]
  rfl

theorem mem_ofRows_iff {rows : List (List Char)} {line : Line} :
    line ∈ ofRows marker rows ↔ ∃ index row, rows[index]? = some row ∧
      ¬ IsSkipped marker row ∧ line = { number := index + 1, text := Text.strip row } := by
  rw [ofRows, List.mem_filter, numbered, List.mem_map]
  constructor
  · rintro ⟨⟨⟨stripped, number⟩, inNumbered, rfl⟩, significant⟩
    obtain ⟨positive, listed⟩ := List.mk_mem_zipIdx_iff_le_and_getElem?_sub.mp inNumbered
    rw [List.getElem?_map] at listed
    obtain ⟨row, isRow, rfl⟩ := Option.map_eq_some_iff.mp listed
    refine ⟨number - 1, row, isRow, fun isSkipped => (isSkipped_iff _).mp isSkipped significant, ?_⟩
    rw [Nat.sub_add_cancel positive]
  · rintro ⟨index, row, isRow, isRead, rfl⟩
    refine ⟨⟨(Text.strip row, index + 1), ?_, rfl⟩, not_not.mp (mt (isSkipped_iff _).mpr isRead)⟩
    rw [List.mk_mem_zipIdx_iff_le_and_getElem?_sub]
    exact ⟨Nat.le_add_left 1 index, by simp [isRow]⟩

theorem pairwise_ofRows (marker : CommentMarker) (rows : List (List Char)) :
    (ofRows marker rows).Pairwise fun first second => first.number < second.number := by
  refine List.Pairwise.filter _ (List.pairwise_map.mpr ?_)
  have numbers := List.pairwise_lt_range' (s := 1) (n := (rows.map Text.strip).length) 1
  rwa [← List.zipIdx_map_snd, List.pairwise_map] at numbers

end Line

/-- The line that cannot be read is this one. -/
structure MalformedLine.IsAt (fault : MalformedLine) (line : Line) : Prop where
  number_eq : fault.number = line.number
  text_eq : fault.text = String.ofList line.text

theorem MalformedLine.isAt_malformed (line : Line) (fault : LineFault) :
    (line.malformed fault).IsAt line :=
  ⟨rfl, rfl⟩

namespace Draft

variable {marker : CommentMarker} {text : String} {first line : Line} {lines : List Line}
  {draft : Draft} {fault : MalformedLine}

/-- Reads a line of a definition that begins with some other line, and adds it to a draft. -/
def addLine (first : Line) : Draft → Line → Except LineFault Draft :=
  if opensKeywordForm first then Keyword.addLine else Grid.addLine

/-- The first line decides how the others are read, which are read one after another. -/
theorem ofLines_cons (first : Line) (rest : List Line) :
    ofLines (first :: rest) = ofLines [first] >>= (addLines (addLine first) · rest) := by
  unfold ofLines addLine
  by_cases opens : opensKeywordForm first = true
  · simp only [if_pos opens, Keyword.read]
    exact addLines_append [first] rest
  · simp only [if_neg opens, Grid.read, addLines_nil, bind_assoc]
    rfl

theorem ofLines_append (first : Line) (rest more : List Line) :
    ofLines (first :: rest ++ more) =
      ofLines (first :: rest) >>= (addLines (addLine first) · more) := by
  rw [List.cons_append, ofLines_cons, ofLines_cons first rest, bind_assoc]
  simp only [addLines_append]

theorem ofLines_append_of_error (failed : ofLines lines = .error fault) (more : List Line) :
    ofLines (lines ++ more) = .error fault := by
  cases lines with
  | nil => contradiction
  | cons first rest =>
      rw [ofLines_append, failed]
      rfl

theorem isAt_of_addLines_singleton {addLine : Draft → Line → Except LineFault Draft}
    (failed : addLines addLine draft [line] = .error fault) : fault.IsAt line := by
  rw [addLines_singleton] at failed
  obtain ⟨lineFault, _, rfl⟩ := Except.mapError_eq_error_iff.mp failed
  exact MalformedLine.isAt_malformed line lineFault

theorem isAt_of_ofLines_singleton (failed : ofLines [line] = .error fault) : fault.IsAt line := by
  rw [ofLines] at failed
  split at failed
  · exact isAt_of_addLines_singleton failed
  · rw [Grid.read] at failed
    rcases Except.bind_eq_error_iff.mp failed with header | ⟨_, _, later⟩
    · obtain ⟨lineFault, _, rfl⟩ := Except.mapError_eq_error_iff.mp header
      exact MalformedLine.isAt_malformed line lineFault
    · contradiction

/-- Once the lines before it are read, only the last line can be at fault. -/
theorem isAt_of_ofLines_concat (read : ofLines lines = .ok draft)
    (failed : ofLines (lines ++ [line]) = .error fault) : fault.IsAt line := by
  cases lines with
  | nil => exact isAt_of_ofLines_singleton failed
  | cons first rest =>
      rw [ofLines_append, read] at failed
      exact isAt_of_addLines_singleton failed

theorem ofText_eq_ofRows (marker : CommentMarker) (text : String) :
    ofText marker text = ofLines (Line.ofRows marker (Text.rows text)) := by
  rw [ofText, Line.significant_eq_ofRows]

theorem ofText_of_consistsOf {rows : List (List Char)} (consistsOf : Text.ConsistsOf text rows) :
    ofText marker text = ofLines (Line.ofRows marker rows) := by
  rw [ofText_eq_ofRows]
  rcases consistsOf with same | ended
  · rw [same]
  · rw [ended, Line.ofRows_concat_of_isSkipped (.inl (by simp))]

end Draft

end Acceptor
