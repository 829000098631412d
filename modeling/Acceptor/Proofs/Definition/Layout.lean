import Mathlib.Data.List.Sort
import Mathlib.Tactic.IntervalCases
import Acceptor.Proofs.Definition.Renumbered

/-!
The layout of a definition does not matter.

Neither the ends of its lines, nor blanks around them, nor blank lines and comments between them
change what is read, but for the numbers of the lines.
-/

namespace Acceptor

/-! ## Padding -/

namespace Text

/-- The padded rows are the others, each in its place and perhaps with blanks around it, and between
them rows that are not read. -/
structure IsPadding (marker : CommentMarker) (rows padded : List (List Char))
    (place : Nat → Nat) : Prop where
  ordered : ∀ first second, first < second → second < rows.length → place first < place second
  kept : ∀ index row, rows[index]? = some row → ∃ before after,
    AreBlanks before ∧ AreBlanks after ∧ padded[place index]? = some (before ++ row ++ after)
  added : ∀ index row, padded[index]? = some row →
    (∀ old < rows.length, place old ≠ index) → IsRow row ∧ Line.IsSkipped marker row

/-- The number of the line that comes to stand in the place of the one with a number. -/
def newNumber (place : Nat → Nat) (number : Nat) : Nat :=
  place (number - 1) + 1

namespace IsPadding

variable {marker : CommentMarker} {rows padded : List (List Char)} {row : List Char}
  {place : Nat → Nat} (isPadding : IsPadding marker rows padded place)

include isPadding

/-- A padded row is either an old one or not read. -/
theorem old_or_added {index : Nat} (listed : padded[index]? = some row) :
    (∃ old oldRow before after, rows[old]? = some oldRow ∧ place old = index ∧
      AreBlanks before ∧ AreBlanks after ∧ row = before ++ oldRow ++ after) ∨
      IsRow row ∧ Line.IsSkipped marker row := by
  by_cases isOld : ∃ old, old < rows.length ∧ place old = index
  · obtain ⟨old, inRows, rfl⟩ := isOld
    obtain ⟨before, after, blankBefore, blankAfter, here⟩ :=
      isPadding.kept old rows[old] (List.getElem?_eq_getElem inRows)
    exact .inl ⟨old, rows[old], before, after, List.getElem?_eq_getElem inRows, rfl,
      blankBefore, blankAfter, Option.some.inj (listed.symm.trans here)⟩
  · exact .inr (isPadding.added index row listed fun old inRows same => isOld ⟨old, inRows, same⟩)

theorem isRow (areRows : ∀ row ∈ rows, IsRow row) (membership : row ∈ padded) : IsRow row := by
  obtain ⟨index, listed⟩ := List.mem_iff_getElem?.mp membership
  rcases isPadding.old_or_added listed with
    ⟨old, oldRow, before, after, isOldRow, _, blankBefore, blankAfter, rfl⟩ | ⟨isRow, _⟩
  · exact (blankBefore.1.append (areRows _ (List.mem_of_getElem? isOldRow))).append blankAfter.1
  · exact isRow

/-- The same lines are read, by their new numbers. -/
theorem map_renumber_ofRows :
    (Line.ofRows marker rows).map (Line.renumber (newNumber place)) =
      Line.ofRows marker padded := by
  -- Both lists are in the order of the numbers, so it is enough that they have the same members.
  have irreflexive : Std.Irrefl fun first second : Line => first.number < second.number :=
    ⟨fun line => Nat.lt_irrefl line.number⟩
  have antisymmetric : Std.Antisymm fun first second : Line => first.number < second.number :=
    ⟨fun _ _ forth back => absurd back (Nat.lt_asymm forth)⟩
  have ordered : ((Line.ofRows marker rows).map (Line.renumber (newNumber place))).Pairwise
      fun first second => first.number < second.number := by
    refine List.pairwise_map.mpr ((Line.pairwise_ofRows marker rows).imp_of_mem ?_)
    intro first second inFirst inSecond less
    obtain ⟨firstIndex, _, isFirst, _, rfl⟩ := Line.mem_ofRows_iff.mp inFirst
    obtain ⟨secondIndex, _, isSecond, _, rfl⟩ := Line.mem_ofRows_iff.mp inSecond
    have inRows : secondIndex < rows.length := (List.getElem?_eq_some_iff.mp isSecond).1
    have earlier : firstIndex < secondIndex := Nat.lt_of_succ_lt_succ less
    exact Nat.succ_lt_succ (isPadding.ordered firstIndex secondIndex earlier inRows)
  refine List.Pairwise.eq_of_mem_iff ordered (Line.pairwise_ofRows marker padded) fun line => ?_
  rw [List.mem_map, Line.mem_ofRows_iff]
  constructor
  · rintro ⟨old, inRows, rfl⟩
    obtain ⟨index, row, isRow, isRead, rfl⟩ := Line.mem_ofRows_iff.mp inRows
    obtain ⟨before, after, blankBefore, blankAfter, here⟩ := isPadding.kept index row isRow
    refine ⟨place index, before ++ row ++ after, here,
      mt (Line.isSkipped_padded_iff blankBefore blankAfter).mp isRead, ?_⟩
    rw [strip_padded blankBefore blankAfter]
    rfl
  · rintro ⟨index, row, listed, isRead, rfl⟩
    rcases isPadding.old_or_added listed with
      ⟨old, oldRow, before, after, isOldRow, rfl, blankBefore, blankAfter, rfl⟩ | ⟨_, isSkipped⟩
    · refine ⟨{ number := old + 1, text := strip oldRow }, Line.mem_ofRows_iff.mpr
        ⟨old, oldRow, isOldRow,
          mt (Line.isSkipped_padded_iff blankBefore blankAfter).mpr isRead, rfl⟩, ?_⟩
      rw [strip_padded blankBefore blankAfter]
      rfl
    · contradiction

end IsPadding

end Text

/-! ## Layout -/

namespace Draft

theorem ofText_endRows {written : List (List Char × Text.LineEnd)} {last : List Char}
    (marker : CommentMarker) (areRows : ∀ row ∈ written, Text.IsRow row.1)
    (isRow : Text.IsRow last) (separate : Text.AreSeparate written) :
    ofText marker (String.ofList (Text.endRows written ++ last)) =
      ofLines (Line.ofRows marker (written.map Prod.fst ++ [last])) := by
  rw [ofText_eq_ofRows, Text.rows_endRows_append areRows isRow separate]

theorem ofText_of_isPadding {marker : CommentMarker} {rows padded : List (List Char)}
    {place : Nat → Nat} {text other : String} (areRows : ∀ row ∈ rows, Text.IsRow row)
    (isPadding : Text.IsPadding marker rows padded place) (written : Text.IsWritten text rows)
    (otherWritten : Text.IsWritten other padded) :
    ofText marker other = renumberOutcome (Text.newNumber place) (ofText marker text) := by
  have arePadded : ∀ row ∈ padded, Text.IsRow row := fun row => isPadding.isRow areRows
  rw [ofText_of_consistsOf (Text.consistsOf_of_isWritten areRows written),
    ofText_of_consistsOf (Text.consistsOf_of_isWritten arePadded otherWritten),
    ← isPadding.map_renumber_ofRows, ofLines_renumber]

/-- Neither ends of lines, nor blanks around them, nor lines that are not read make a difference. -/
theorem ofText_layout (marker : CommentMarker) :
    (∀ (written : List (List Char × Text.LineEnd)) (last : List Char),
      (∀ row ∈ written, Text.IsRow row.1) → Text.IsRow last → Text.AreSeparate written →
        ofText marker (String.ofList (Text.endRows written ++ last)) =
          ofText marker (String.ofList
            (Text.endRows (written.map fun (row, _) => (row, .newline)) ++ last))) ∧
    (∀ (rows padded : List (List Char)) (place : Nat → Nat) (text other : String),
      (∀ row ∈ rows, Text.IsRow row) → Text.IsPadding marker rows padded place →
        Text.IsWritten text rows → Text.IsWritten other padded →
          ofText marker other = renumberOutcome (Text.newNumber place) (ofText marker text)) ∧
    ∀ text, Text.unifyNewlines text = Text.unifyAtOnce text ∧
      Text.unifyNewlines (Text.unifyNewlines text) = Text.unifyNewlines text := by
  refine ⟨?_, ?_, ?_⟩
  · intro written last areRows isRow separate
    have areSame : ∀ row ∈ written.map fun (row, _) => (row, Text.LineEnd.newline),
        Text.IsRow row.1 := by
      intro _ membership
      obtain ⟨row, inWritten, rfl⟩ := List.mem_map.mp membership
      exact areRows row inWritten
    have areSeparate :
        Text.AreSeparate (written.map fun (row, _) => (row, Text.LineEnd.newline)) :=
      (List.isChain_map _).mpr (separate.imp fun _ _ _ ⟨same, _⟩ => by contradiction)
    rw [ofText_endRows marker areRows isRow separate,
      ofText_endRows marker areSame isRow areSeparate, List.map_map]
    rfl
  · intro rows padded place text other
    exact ofText_of_isPadding
  · exact fun text =>
      ⟨Text.unifyNewlines_eq_unifyAtOnce text, Text.unifyNewlines_unifyNewlines text⟩

/-- The end of a line in each of the three ways, and of two lines in a way that could be taken for
another. -/
def mixedRows : List (List Char × Text.LineEnd) :=
  [("states: s, t".toList, .pair), ([], .carriageReturn), ("alphabet: a".toList, .carriageReturn),
    ([], .pair), ("s, a -> s".toList, .newline)]

def bareRows : List (List Char) :=
  ["0,1".toList, "-,s,s,t".toList, "+,t,,s".toList]

def paddedRows : List (List Char) :=
  ["# table".toList, " 0,1\t".toList, [], "-,s,s,t".toList, "   # more".toList,
    "\x0c+,t,,s ".toList]

theorem isPadding_paddedRows : Text.IsPadding default bareRows paddedRows (2 * · + 1) where
  ordered first second less _ := by omega
  kept index row listed := by
    have inRows : index < 3 := (List.getElem?_eq_some_iff.mp listed).1
    interval_cases index <;> obtain rfl := Option.some.inj listed
    · exact ⟨[' '], ['\t'], by decide +kernel, by decide +kernel, rfl⟩
    · exact ⟨[], [], by decide +kernel, by decide +kernel, rfl⟩
    · exact ⟨['\x0c'], [' '], by decide +kernel, by decide +kernel, rfl⟩
  added index row listed isNew := by
    have inPadded : index < 6 := (List.getElem?_eq_some_iff.mp listed).1
    interval_cases index <;> obtain rfl := Option.some.inj listed
    · decide +kernel
    · exact absurd rfl (isNew 0 (by decide))
    · decide +kernel
    · exact absurd rfl (isNew 1 (by decide))
    · decide +kernel
    · exact absurd rfl (isNew 2 (by decide))

theorem ofText_layout_paddedRows :
    Text.AreSeparate mixedRows ∧
      ofText default "states: s, t\r\n\ralphabet: a\r\r\ns, a -> s\nstart: s, t" =
        ofText default "states: s, t\n\nalphabet: a\n\ns, a -> s\nstart: s, t" ∧
      Text.IsPadding default bareRows paddedRows (2 * · + 1) ∧
      ofText default "# table\n 0,1\t\n\n-,s,s,t\n   # more\n\x0c+,t,,s " =
        renumberOutcome (Text.newNumber (2 * · + 1)) (ofText default "0,1\n-,s,s,t\n+,t,,s\n") := by
  obtain ⟨ends, padding, _⟩ := ofText_layout default
  have separate : Text.AreSeparate mixedRows := by decide +kernel
  refine ⟨separate, ?_, isPadding_paddedRows, ?_⟩
  · exact ends mixedRows "start: s, t".toList (by decide +kernel) (by decide +kernel) separate
  · exact padding bareRows paddedRows _ _ _ (by decide +kernel) isPadding_paddedRows
      (.inl (by decide +kernel)) (.inr (by decide +kernel))

end Draft

end Acceptor
