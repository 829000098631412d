import Mathlib.Data.List.Chain
import Acceptor.Proofs.Text.Pieces

/-!
The rows of a text: its lines, whatever their ends.

Two successive replacements unify the ends of lines just as one pass does, so a text that is
written row by row, with any ends that cannot be mistaken for others, has these rows.
-/

namespace Acceptor.Text

/-! ## Unifying line ends -/

theorem unifyNewlines_pair (rest : List Char) :
    unifyNewlines ('\r' :: '\n' :: rest) = '\n' :: unifyNewlines rest := rfl

theorem unifyNewlines_return {rest : List Char} (lone : rest.head? ≠ some '\n') :
    unifyNewlines ('\r' :: rest) = '\n' :: unifyNewlines rest := by
  rw [unifyNewlines, joinPairs]
  · rfl
  · rintro others _ rfl
    exact lone rfl

theorem unifyNewlines_cons {c : Char} (plain : c ≠ '\r') (rest : List Char) :
    unifyNewlines (c :: rest) = c :: unifyNewlines rest := by
  rw [unifyNewlines, joinPairs]
  · simp [loneReturns, unifyNewlines, plain]
  · exact fun _ same _ => plain same

/-- Replacing the pairs first, and then what is left of `\r`, is the same as one pass. -/
theorem unifyNewlines_eq_unifyAtOnce (text : List Char) :
    unifyNewlines text = unifyAtOnce text := by
  fun_induction unifyAtOnce text with
  | case1 rest inductionHypothesis => rw [unifyNewlines_pair, inductionHypothesis]
  | case2 rest noPair inductionHypothesis =>
      have lone : rest.head? ≠ some '\n' := by
        intro head
        obtain ⟨others, rfl⟩ := List.head?_eq_some_iff.mp head
        exact noPair others rfl
      rw [unifyNewlines_return lone, inductionHypothesis]
  | case3 c rest _ plain inductionHypothesis =>
      rw [unifyNewlines_cons plain, inductionHypothesis]
  | case4 => rfl

theorem unifyNewlines_unifyNewlines (text : List Char) :
    unifyNewlines (unifyNewlines text) = unifyNewlines text :=
  unifyNewlines_of_not_mem (return_not_mem_unifyNewlines text)

theorem unifyNewlines_append {row : List Char} (plain : '\r' ∉ row) (rest : List Char) :
    unifyNewlines (row ++ rest) = row ++ unifyNewlines rest := by
  induction row with
  | nil => rfl
  | cons c others inductionHypothesis =>
      rw [List.mem_cons, not_or] at plain
      rw [List.cons_append, unifyNewlines_cons (Ne.symm plain.1), inductionHypothesis plain.2,
        List.cons_append]

/-! ## Rows -/

def rows (text : String) : List (List Char) :=
  lines (unifyNewlines text.toList)

/-- Can stand as a row: there is no end of a line in it. -/
@[mk_iff]
structure IsRow (row : List Char) : Prop where
  no_newline : '\n' ∉ row
  no_return : '\r' ∉ row

instance (row : List Char) : Decidable (IsRow row) :=
  decidable_of_iff' _ (isRow_iff row)

/-- The text has the rows and no others, but for an empty one after the end of the last. -/
def ConsistsOf (text : String) (written : List (List Char)) : Prop :=
  rows text = written ∨ rows text = written ++ [[]]

/-- The text consists of the rows, each ended by `\n`; after the last one the end may be left
out. -/
def IsWritten (text : String) (written : List (List Char)) : Prop :=
  text.toList = written.flatMap (· ++ ['\n']) ∨ text.toList = ['\n'].intercalate written

theorem lines_intercalate {written : List (List Char)} (nonempty : written ≠ [])
    (unbroken : ∀ row ∈ written, '\n' ∉ row) : lines (['\n'].intercalate written) = written := by
  rw [lines, splitWhere_eq_splitOnP, ← List.splitOn_eq_splitOnP]
  exact List.splitOn_intercalate '\n' unbroken nonempty

theorem consistsOf_of_isWritten {written : List (List Char)} {text : String}
    (areRows : ∀ row ∈ written, IsRow row) (isWritten : IsWritten text written) :
    ConsistsOf text written := by
  unfold ConsistsOf
  have unbroken : ∀ row ∈ written, '\n' ∉ row := fun row membership =>
    (areRows row membership).no_newline
  rcases isWritten with ended | joined
  · have plain : '\r' ∉ written.flatMap (· ++ ['\n']) := by
      intro membership
      obtain ⟨row, inWritten, inRow⟩ := List.mem_flatMap.mp membership
      simp [(areRows row inWritten).no_return] at inRow
    rw [rows, ended, unifyNewlines_of_not_mem plain, lines_flatMap unbroken]
    exact .inr rfl
  · have plain : '\r' ∉ ['\n'].intercalate written := by
      intro membership
      rcases mem_intercalate membership with inSeparator | ⟨row, inWritten, inRow⟩
      · exact absurd inSeparator (by decide)
      · exact (areRows row inWritten).no_return inRow
    rw [rows, joined, unifyNewlines_of_not_mem plain]
    cases written with
    | nil => exact .inr rfl
    | cons row others => exact .inl (lines_intercalate (List.cons_ne_nil row others) unbroken)

/-! ## Blanks around rows -/

def AreBlanks (blanks : List Char) : Prop :=
  IsRow blanks ∧ ∀ c ∈ blanks, isBlank c = true

instance (blanks : List Char) : Decidable (AreBlanks blanks) :=
  decidable_of_iff (IsRow blanks ∧ blanks.all isBlank = true) (by rw [AreBlanks, List.all_eq_true])

theorem IsRow.append {row other : List Char} (isRow : IsRow row) (isOtherRow : IsRow other) :
    IsRow (row ++ other) where
  no_newline := by simp [isRow.no_newline, isOtherRow.no_newline]
  no_return := by simp [isRow.no_return, isOtherRow.no_return]

theorem strip_eq_nil_iff {row : List Char} : strip row = [] ↔ ∀ c ∈ row, isBlank c = true := by
  constructor
  · intro empty
    obtain ⟨before, after, parts, blankBefore, blankAfter⟩ := exists_blanks_strip row
    rw [empty, List.append_nil] at parts
    rw [parts]
    exact List.forall_mem_append.mpr ⟨blankBefore, blankAfter⟩
  · intro areBlank
    rw [strip, stripStart_eq_nil_iff.mpr areBlank]
    rfl

theorem strip_append_left {blanks : List Char} (areBlank : ∀ c ∈ blanks, isBlank c = true)
    (row : List Char) : strip (blanks ++ row) = strip row := by
  rw [strip, stripStart, List.dropWhile_append_of_pos areBlank]
  rfl

theorem strip_append_right {blanks : List Char} (areBlank : ∀ c ∈ blanks, isBlank c = true)
    (row : List Char) : strip (row ++ blanks) = strip row := by
  rw [strip, stripStart, List.dropWhile_append]
  split
  next empty =>
    have bare : stripStart row = [] := List.isEmpty_iff.mp empty
    have nothing : blanks.dropWhile isBlank = [] := stripStart_eq_nil_iff.mpr areBlank
    rw [nothing, strip, bare]
  next =>
    rw [stripEnd, List.reverse_append, List.dropWhile_append_of_pos]
    · rfl
    · exact fun c membership => areBlank c (List.mem_reverse.mp membership)

theorem strip_padded {row before after : List Char} (blankBefore : AreBlanks before)
    (blankAfter : AreBlanks after) : strip (before ++ row ++ after) = strip row := by
  rw [strip_append_right blankAfter.2, strip_append_left blankBefore.2]

theorem head?_strip_eq_some_iff {row : List Char} {c : Char} (visible : isBlank c = false) :
    (strip row).head? = some c ↔
      ∃ blanks rest, (∀ d ∈ blanks, isBlank d = true) ∧ row = blanks ++ c :: rest := by
  constructor
  · intro head
    obtain ⟨before, after, parts, areBlank, _⟩ := exists_blanks_strip row
    obtain ⟨rest, stripped⟩ := List.head?_eq_some_iff.mp head
    refine ⟨before, rest ++ after, areBlank, ?_⟩
    conv_lhs => rw [parts, stripped]
    simp
  · rintro ⟨blanks, rest, areBlank, rfl⟩
    have kept : strip ([] ++ c :: rest) = [] ++ c :: stripEnd rest :=
      strip_append_cons (by simp) visible rest
    rw [strip_append_left areBlank, ← List.nil_append (c :: rest), kept]
    rfl

/-! ## Rows with ends of any kind -/

inductive LineEnd where
  | newline
  | pair
  | carriageReturn
  deriving DecidableEq, Repr

def LineEnd.text : LineEnd → List Char
  | .newline => ['\n']
  | .pair => ['\r', '\n']
  | .carriageReturn => ['\r']

def endRows (written : List (List Char × LineEnd)) : List Char :=
  written.flatMap fun (row, ending) => row ++ ending.text

theorem endRows_cons (row : List Char) (ending : LineEnd) (rest : List (List Char × LineEnd)) :
    endRows ((row, ending) :: rest) = row ++ (ending.text ++ endRows rest) := by
  rw [endRows, List.flatMap_cons, List.append_assoc]
  rfl

theorem endRows_concat (written : List (List Char × LineEnd)) (row : List Char)
    (ending : LineEnd) : endRows (written ++ [(row, ending)]) = endRows written ++ row ++ ending.text := by
  rw [endRows, List.flatMap_append, List.flatMap_singleton, List.append_assoc]
  rfl

/-- No `\r` is directly followed by an empty row that ends in `\n`: the two ends could not be told
from a single one. -/
def AreSeparate (written : List (List Char × LineEnd)) : Prop :=
  written.IsChain fun first second => ¬ (first.2 = .carriageReturn ∧ second = ([], .newline))

instance (written : List (List Char × LineEnd)) : Decidable (AreSeparate written) :=
  inferInstanceAs (Decidable (List.IsChain _ written))

theorem IsRow.head?_ne {row : List Char} (isRow : IsRow row) : row.head? ≠ some '\n' :=
  fun head => isRow.no_newline (List.mem_of_head? head)

theorem head?_endRows_append {written : List (List Char × LineEnd)} {last : List Char}
    (areRows : ∀ row ∈ written, IsRow row.1) (isRow : IsRow last)
    (separate : written.head? ≠ some ([], .newline)) :
    (endRows written ++ last).head? ≠ some '\n' := by
  cases written with
  | nil => exact isRow.head?_ne
  | cons first rest =>
      rcases first with ⟨_ | ⟨c, row⟩, ending⟩
      · cases ending with
        | newline => exact absurd rfl separate
        | pair | carriageReturn => exact fun head => absurd (Option.some.inj head) (by decide)
      · exact (areRows _ List.mem_cons_self).head?_ne

theorem unifyNewlines_endRows_append {written : List (List Char × LineEnd)} {last : List Char}
    (areRows : ∀ row ∈ written, IsRow row.1) (isRow : IsRow last) (separate : AreSeparate written) :
    unifyNewlines (endRows written ++ last) =
      (written.map Prod.fst).flatMap (· ++ ['\n']) ++ last := by
  induction written with
  | nil => exact unifyNewlines_of_not_mem isRow.no_return
  | cons first rest inductionHypothesis =>
      rcases first with ⟨row, ending⟩
      obtain ⟨isFirstRow, areRest⟩ := List.forall_mem_cons.mp areRows
      obtain ⟨apart, separateRest⟩ := List.isChain_cons.mp separate
      have later := inductionHypothesis areRest separateRest
      have ended : unifyNewlines (ending.text ++ (endRows rest ++ last)) =
          '\n' :: unifyNewlines (endRows rest ++ last) := by
        cases ending with
        | newline => exact unifyNewlines_cons (by decide) _
        | pair => exact unifyNewlines_pair _
        | carriageReturn =>
            apply unifyNewlines_return
            apply head?_endRows_append areRest isRow
            exact fun next => apart _ next ⟨rfl, rfl⟩
      rw [endRows_cons, List.append_assoc, List.append_assoc,
        unifyNewlines_append isFirstRow.no_return, ended, later, List.map_cons, List.flatMap_cons]
      simp only [List.append_assoc, List.cons_append, List.nil_append]

/-- A text that is written row by row, with ends of any kind, has these rows. -/
theorem rows_endRows_append {written : List (List Char × LineEnd)} {last : List Char}
    (areRows : ∀ row ∈ written, IsRow row.1) (isRow : IsRow last) (separate : AreSeparate written) :
    rows (String.ofList (endRows written ++ last)) = written.map Prod.fst ++ [last] := by
  have unbroken : ∀ row ∈ written.map Prod.fst, '\n' ∉ row := by
    intro row membership
    obtain ⟨ended, inWritten, rfl⟩ := List.mem_map.mp membership
    exact (areRows ended inWritten).no_newline
  have single : lines last = [last] := by
    refine splitWhere_of_forall fun c membership => ?_
    have different : c ≠ '\n' := fun equality => isRow.no_newline (equality ▸ membership)
    simpa using different
  rw [rows, String.toList_ofList, unifyNewlines_endRows_append areRows isRow separate,
    lines_flatMap_append unbroken, single]

end Acceptor.Text
