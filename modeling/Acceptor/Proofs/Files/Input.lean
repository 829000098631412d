import Acceptor.Files.Read
import Acceptor.Proofs.Files.Places
import Acceptor.Proofs.Result
import Acceptor.Proofs.Text.Rows
import Acceptor.Proofs.Text.Utf8

/-!
Lines that are written one below the other are read back from an input file.

Only the blanks at the ends of the whole text are lost, so it is enough that the first line begins
and the last line ends with a character that is not blank.
-/

namespace Acceptor

namespace Text

variable {rows : List (List Char)} {row : List Char} {c : Char}

/-! ## Joined rows -/

theorem head?_intercalate_cons (separator : List Char) (rest : List (List Char))
    (nonempty : row ≠ []) : (separator.intercalate (row :: rest)).head? = row.head? := by
  cases rest with
  | nil => simp
  | cons second rest =>
      rw [List.intercalate_cons_cons, List.append_assoc]
      exact List.head?_append_of_ne_nil _ nonempty

theorem getLast?_intercalate_concat (separator : List Char) (nonempty : row ≠ []) :
    (separator.intercalate (rows ++ [row])).getLast? = row.getLast? := by
  induction rows with
  | nil => simp
  | cons first rest inductionHypothesis =>
      have someRows : rest ++ [row] ≠ [] := List.concat_ne_nil row rest
      have someText : separator.intercalate (rest ++ [row]) ≠ [] := by
        intro empty
        rw [empty] at inductionHypothesis
        exact nonempty (List.getLast?_eq_none_iff.mp inductionHypothesis.symm)
      rw [List.cons_append, List.intercalate_cons_of_ne_nil someRows,
        List.getLast?_append_of_ne_nil _ someText, inductionHypothesis]

theorem flatMap_newline_eq (nonempty : rows ≠ []) :
    rows.flatMap (· ++ ['\n']) = ['\n'].intercalate rows ++ ['\n'] := by
  induction rows with
  | nil => contradiction
  | cons first rest inductionHypothesis =>
      rw [List.flatMap_cons]
      by_cases last : rest = []
      · simp [last]
      · rw [inductionHypothesis last, List.intercalate_cons_of_ne_nil last]
        simp

/-- The first row begins and the last row ends with a character that is not blank. -/
structure IsTrimmed (rows : List (List Char)) : Prop where
  head_visible : ∃ row c, rows.head? = some row ∧ row.head? = some c ∧ isBlank c = false
  last_visible : ∃ row c, rows.getLast? = some row ∧ row.getLast? = some c ∧ isBlank c = false

theorem isTrimmed_of_visible (someRows : rows ≠ []) (nonempty : ∀ row ∈ rows, row ≠ [])
    (visible : ∀ row ∈ rows, ∀ c ∈ row, isBlank c = false) : IsTrimmed rows := by
  constructor
  · have isFirst := List.head_mem someRows
    have someText := nonempty _ isFirst
    exact ⟨_, _, List.head?_eq_some_head someRows, List.head?_eq_some_head someText,
      visible _ isFirst _ (List.head_mem someText)⟩
  · have isLast := List.getLast_mem someRows
    have someText := nonempty _ isLast
    exact ⟨_, _, List.getLast?_eq_some_getLast someRows, List.getLast?_eq_some_getLast someText,
      visible _ isLast _ (List.getLast_mem someText)⟩

theorem IsTrimmed.ne_nil (trimmed : IsTrimmed rows) : rows ≠ [] := by
  obtain ⟨row, _, head, _⟩ := trimmed.head_visible
  exact List.ne_nil_of_mem (List.mem_of_head? head)

theorem IsTrimmed.head?_intercalate (trimmed : IsTrimmed rows) :
    ∃ c, (['\n'].intercalate rows).head? = some c ∧ isBlank c = false := by
  obtain ⟨row, c, head, first, visible⟩ := trimmed.head_visible
  obtain ⟨rest, rfl⟩ := List.head?_eq_some_iff.mp head
  have nonempty : row ≠ [] := List.ne_nil_of_mem (List.mem_of_head? first)
  exact ⟨c, (head?_intercalate_cons _ rest nonempty).trans first, visible⟩

theorem IsTrimmed.getLast?_intercalate (trimmed : IsTrimmed rows) :
    ∃ c, (['\n'].intercalate rows).getLast? = some c ∧ isBlank c = false := by
  obtain ⟨row, c, isLast, last, visible⟩ := trimmed.last_visible
  obtain ⟨before, rfl⟩ := List.getLast?_eq_some_iff.mp isLast
  have nonempty : row ≠ [] := List.ne_nil_of_mem (List.mem_of_getLast? last)
  exact ⟨c, (getLast?_intercalate_concat _ nonempty).trans last, visible⟩

theorem IsTrimmed.strip_intercalate (trimmed : IsTrimmed rows) :
    strip (['\n'].intercalate rows) = ['\n'].intercalate rows := by
  obtain ⟨first, head, firstVisible⟩ := trimmed.head?_intercalate
  obtain ⟨final, last, finalVisible⟩ := trimmed.getLast?_intercalate
  apply strip_eq_self
  · intro c isHead
    rw [head] at isHead
    cases isHead
    exact firstVisible
  · intro c isLast
    rw [last] at isLast
    cases isLast
    exact finalVisible

end Text

namespace Tree

variable {tree after : Tree} {path text : String} {place : List String}
  {rows : List (List Char)}

/-! ## Input texts -/

/-- Trimmed rows are the lines of the text in which they stand between blanks. -/
theorem inputLines_of_isTrimmed {before after : List Char} (trimmed : Text.IsTrimmed rows)
    (unbroken : ∀ row ∈ rows, '\n' ∉ row) (blankBefore : ∀ c ∈ before, Text.isBlank c = true)
    (blankAfter : ∀ c ∈ after, Text.isBlank c = true) :
    inputLines (String.ofList (before ++ ['\n'].intercalate rows ++ after)) =
      rows.map String.ofList := by
  have stripped : Text.strip (before ++ ['\n'].intercalate rows ++ after) =
      ['\n'].intercalate rows := by
    rw [Text.strip_append_right blankAfter, Text.strip_append_left blankBefore,
      trimmed.strip_intercalate]
  obtain ⟨c, head, _⟩ := trimmed.head?_intercalate
  have nonempty : ['\n'].intercalate rows ≠ [] := List.ne_nil_of_mem (List.mem_of_head? head)
  unfold inputLines
  rw [String.toList_ofList, stripped]
  split
  next empty => exact absurd empty nonempty
  next => rw [Text.lines_intercalate trimmed.ne_nil unbroken]

theorem map_ofList_map_toList (lines : List String) :
    (lines.map String.toList).map String.ofList = lines := by
  rw [List.map_map]
  exact (List.map_congr_left fun _ _ => String.ofList_toList).trans (List.map_id _)

/-- Lines without blanks, each ended by `\n`, are the lines of the text. -/
theorem inputLines_join {lines : List String} (nonempty : ∀ line ∈ lines, line ≠ "")
    (visible : ∀ line ∈ lines, ∀ c ∈ line.toList, Text.isBlank c = false) :
    inputLines (String.join (lines.map (· ++ "\n"))) = lines := by
  by_cases empty : lines = []
  · rw [empty]
    rfl
  · have someRows : lines.map String.toList ≠ [] := by simpa using empty
    have joined : String.join (lines.map (· ++ "\n")) =
        String.ofList ([] ++ ['\n'].intercalate (lines.map String.toList) ++ ['\n']) := by
      rw [List.nil_append, ← Text.flatMap_newline_eq someRows, ← String.toList_inj]
      simp [String.toList_join, List.flatMap_map]
    have trimmed : Text.IsTrimmed (lines.map String.toList) := by
      apply Text.isTrimmed_of_visible someRows
      · rw [List.forall_mem_map]
        intro line isLine
        simpa using nonempty line isLine
      · exact List.forall_mem_map.mpr visible
    have unbroken : ∀ row ∈ lines.map String.toList, '\n' ∉ row := by
      rw [List.forall_mem_map]
      intro line isLine broken
      exact absurd (visible line isLine '\n' broken) (by decide)
    have blankEnd : ∀ c ∈ ['\n'], Text.isBlank c = true := List.forall_mem_singleton.mpr rfl
    rw [joined, inputLines_of_isTrimmed trimmed unbroken (List.forall_mem_nil _) blankEnd,
      map_ofList_map_toList]

/-! ## Input files -/

theorem readText_of_storesAt_bytes {bytes : List UInt8}
    (stores : tree.StoresAt path place (.bytes bytes)) :
    tree.readText path = ((Text.Utf8.decode bytes).mapError (Failure.notText path)).map
      fun text => String.ofList (Text.unifyNewlines text) := by
  simp only [readText, stores.holds, stores.read, Except.mapError, bind, Except.bind,
    Bool.not_true, Bool.false_eq_true, if_false]
  cases Text.Utf8.decode bytes <;> rfl

theorem readText_of_storesAt (stores : tree.StoresAt path place (.ofText text)) :
    tree.readText path = .ok (String.ofList (Text.unifyNewlines text.toList)) := by
  rw [readText_of_storesAt_bytes stores, Text.Utf8.decode_encode]
  rfl

theorem readText_eq_ok_iff {content : String} :
    tree.readText path = .ok content ↔ ∃ place text, tree.StoresAt path place (.ofText text) ∧
      content = String.ofList (Text.unifyNewlines text.toList) := by
  constructor
  · intro read
    obtain ⟨held, _, read⟩ := Except.bind_eq_ok_iff.mp read
    split at read
    · cases read
    obtain ⟨stored, found, read⟩ := Except.bind_eq_ok_iff.mp read
    obtain ⟨place, stores⟩ := exists_storesAt_of_read (Except.mapError_eq_ok_iff.mp found)
    split at read
    · cases read
    next bytes =>
      split at read
      · cases read
      next text decoded =>
        cases read
        refine ⟨place, String.ofList text, ?_, by rw [String.toList_ofList]⟩
        rw [Content.ofText, String.toList_ofList, ← Text.Utf8.decode_eq_ok_iff.mp decoded]
        exact stores
  · rintro ⟨place, text, stores, rfl⟩
    exact readText_of_storesAt stores

theorem readInput_of_storesAt (stores : tree.StoresAt path place (.ofText text)) :
    tree.readInput path = .ok {
      filename := (Path.ofString path).name
      lines := inputLines (String.ofList (Text.unifyNewlines text.toList)) } := by
  rw [readInput, readText_of_storesAt stores]
  rfl

/-- What an input file gives is the lines of a text that it stores. -/
theorem exists_storesAt_of_readInput {batch : Batch} (read : tree.readInput path = .ok batch) :
    ∃ place text, tree.StoresAt path place (.ofText text) ∧ batch = {
      filename := (Path.ofString path).name
      lines := inputLines (String.ofList (Text.unifyNewlines text.toList)) } := by
  obtain ⟨content, readText, made⟩ := Except.bind_eq_ok_iff.mp read
  cases made
  obtain ⟨place, text, stores, rfl⟩ := readText_eq_ok_iff.mp readText
  exact ⟨place, text, stores, rfl⟩

end Tree

end Acceptor
