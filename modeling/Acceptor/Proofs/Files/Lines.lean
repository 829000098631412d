import Acceptor.Proofs.Files.Input

/-!
Which input files give which lines.

A text holds lines if they stand in it one below the other, with ends of any kind, and nothing but
blanks stands around them.  Every text that is not all blanks holds lines, and an input file gives
just the lines that its text holds.
-/

namespace Acceptor

namespace Text

variable {text row last : List Char} {lines : List (List Char)}
  {written : List (List Char × LineEnd)} {c : Char}

/-! ## Unifying piece by piece -/

/-- Pieces of a text are unified one by one, unless a pair is cut in two. -/
theorem unifyNewlines_append_of_apart {first second : List Char}
    (apart : first.getLast? = some '\r' → second.head? ≠ some '\n') :
    unifyNewlines (first ++ second) = unifyNewlines first ++ unifyNewlines second := by
  induction first using unifyAtOnce.induct with
  | case1 rest inductionHypothesis =>
      rw [List.cons_append, List.cons_append, unifyNewlines_pair, unifyNewlines_pair,
        inductionHypothesis, List.cons_append]
      intro last
      exact apart (by simp [List.getLast?_cons, last])
  | case2 rest noPair inductionHypothesis =>
      have lone : (rest ++ second).head? ≠ some '\n' := by
        cases rest with
        | nil => exact apart rfl
        | cons c others =>
            rintro ⟨⟩
            exact noPair others rfl
      have loneHere : rest.head? ≠ some '\n' := by
        intro head
        obtain ⟨others, rfl⟩ := List.head?_eq_some_iff.mp head
        exact noPair others rfl
      rw [List.cons_append, unifyNewlines_return lone, unifyNewlines_return loneHere,
        inductionHypothesis, List.cons_append]
      intro last
      exact apart (by simp [List.getLast?_cons, last])
  | case3 c rest _ plain inductionHypothesis =>
      rw [List.cons_append, unifyNewlines_cons plain, unifyNewlines_cons plain,
        inductionHypothesis, List.cons_append]
      intro last
      exact apart (by simp [List.getLast?_cons, last])
  | case4 => rfl

theorem head?_ne_newline (head : (unifyNewlines text).head? = some c)
    (visible : isBlank c = false) : text.head? ≠ some '\n' := by
  intro newline
  obtain ⟨rest, rfl⟩ := List.head?_eq_some_iff.mp newline
  rw [unifyNewlines_cons (by decide)] at head
  cases head
  contradiction

theorem getLast?_ne_return (ends : (unifyNewlines text).getLast? = some c)
    (visible : isBlank c = false) : text.getLast? ≠ some '\r' := by
  intro returned
  obtain ⟨rest, rfl⟩ := List.getLast?_eq_some_iff.mp returned
  rw [unifyNewlines_append_of_apart (fun _ => by decide), List.getLast?_append] at ends
  cases ends
  contradiction

/-- Only line ends are touched, and these are blank. -/
theorem mem_unifyNewlines_iff (visible : isBlank c = false) :
    c ∈ unifyNewlines text ↔ c ∈ text := by
  obtain ⟨noNewline, noReturn⟩ := not_line_end_of_visible visible
  rw [unifyNewlines_eq_unifyAtOnce]
  fun_induction unifyAtOnce text with
  | case1 rest inductionHypothesis => simp [noNewline, noReturn, inductionHypothesis]
  | case2 rest _ inductionHypothesis => simp [noNewline, noReturn, inductionHypothesis]
  | case3 d rest _ _ inductionHypothesis => simp [inductionHypothesis]
  | case4 => rfl

theorem forall_isBlank_iff {text : List Char} :
    (∀ c ∈ text, isBlank c = true) ↔ ∀ c, isBlank c = false → c ∉ text := by
  refine forall_congr' fun c => ?_
  cases isBlank c <;> simp

theorem forall_isBlank_unifyNewlines_iff :
    (∀ c ∈ unifyNewlines text, isBlank c = true) ↔ ∀ c ∈ text, isBlank c = true := by
  rw [forall_isBlank_iff, forall_isBlank_iff]
  exact forall₂_congr fun c visible => not_congr (mem_unifyNewlines_iff visible)

/-! ## The rows of any text -/

theorem LineEnd.text_ne_nil (ending : LineEnd) : ending.text ≠ [] := by
  cases ending <;> exact List.cons_ne_nil _ _

theorem LineEnd.isBlank_of_mem {ending : LineEnd} (membership : c ∈ ending.text) :
    isBlank c = true := by
  have isEnd : c = '\n' ∨ c = '\r' := by
    cases ending <;> simp only [text, List.mem_cons, List.not_mem_nil, or_false] at membership
    · exact .inl membership
    · exact membership.symm
    · exact .inr membership
  rcases isEnd with rfl | rfl <;> decide

/-- Every text is made of rows, each but the last with an end of some kind. -/
theorem exists_endRows (text : List Char) :
    ∃ written last, text = endRows written ++ last ∧ (∀ row ∈ written, IsRow row.1) ∧
      IsRow last ∧ AreSeparate written := by
  have isEmptyRow : IsRow [] := ⟨List.not_mem_nil, List.not_mem_nil⟩
  induction text using unifyAtOnce.induct with
  | case1 rest inductionHypothesis =>
      obtain ⟨written, last, rfl, areRows, isRow, separate⟩ := inductionHypothesis
      refine ⟨([], .pair) :: written, last, rfl, ?_, isRow, ?_⟩
      · exact List.forall_mem_cons.mpr ⟨isEmptyRow, areRows⟩
      · exact List.isChain_cons.mpr ⟨fun _ _ => nofun, separate⟩
  | case2 rest noPair inductionHypothesis =>
      obtain ⟨written, last, rfl, areRows, isRow, separate⟩ := inductionHypothesis
      refine ⟨([], .carriageReturn) :: written, last, rfl, ?_, isRow, ?_⟩
      · exact List.forall_mem_cons.mpr ⟨isEmptyRow, areRows⟩
      · refine List.isChain_cons.mpr ⟨?_, separate⟩
        rintro _ next ⟨_, rfl⟩
        obtain ⟨others, rfl⟩ := List.head?_eq_some_iff.mp next
        exact noPair _ rfl
  | case3 c rest _ plain inductionHypothesis =>
      obtain ⟨written, last, rfl, areRows, isRow, separate⟩ := inductionHypothesis
      by_cases newline : c = '\n'
      · subst newline
        refine ⟨([], .newline) :: written, last, rfl, ?_, isRow, ?_⟩
        · exact List.forall_mem_cons.mpr ⟨isEmptyRow, areRows⟩
        · exact List.isChain_cons.mpr ⟨fun _ _ => nofun, separate⟩
      · -- The character begins the first row, which is the last one if no other has an end.
        have grown {row : List Char} (isRow : IsRow row) : IsRow (c :: row) := by
          constructor
          · simp [Ne.symm newline, isRow.no_newline]
          · simp [Ne.symm plain, isRow.no_return]
        cases written with
        | nil => exact ⟨[], c :: last, rfl, List.forall_mem_nil _, grown isRow, .nil⟩
        | cons first others =>
            obtain ⟨isFirstRow, areOthers⟩ := List.forall_mem_cons.mp areRows
            obtain ⟨apart, separateOthers⟩ := List.isChain_cons.mp separate
            refine ⟨(c :: first.1, first.2) :: others, last, rfl, ?_, isRow, ?_⟩
            · exact List.forall_mem_cons.mpr ⟨grown isFirstRow, areOthers⟩
            · exact List.isChain_cons.mpr ⟨apart, separateOthers⟩
  | case4 => exact ⟨[], [], rfl, List.forall_mem_nil _, isEmptyRow, .nil⟩

/-- If neither end of a text is blank, then the first row begins and the last row ends there. -/
theorem isTrimmed_of_endRows {first final : Char}
    (head : (endRows written ++ last).head? = some first) (firstVisible : isBlank first = false)
    (ends : (endRows written ++ last).getLast? = some final) (finalVisible : isBlank final = false) :
    IsTrimmed (written.map Prod.fst ++ [last]) := by
  -- A row without characters at either end would leave the end of a line there.
  constructor
  · cases written with
    | nil => exact ⟨last, first, rfl, head, firstVisible⟩
    | cons firstRow others =>
        obtain ⟨row, ending⟩ := firstRow
        cases row with
        | nil =>
            rw [endRows_cons, List.nil_append, List.append_assoc,
              List.head?_append_of_ne_nil _ ending.text_ne_nil] at head
            have blank := LineEnd.isBlank_of_mem (List.mem_of_head? head)
            rw [firstVisible] at blank
            contradiction
        | cons c row => exact ⟨c :: row, first, rfl, head, firstVisible⟩
  · refine ⟨last, final, List.getLast?_concat, ?_, finalVisible⟩
    by_cases empty : last = []
    · rcases List.eq_nil_or_concat written with rfl | ⟨others, ⟨row, ending⟩, rfl⟩
      · rw [empty] at ends
        contradiction
      · rw [empty, List.append_nil, List.concat_eq_append, endRows_concat,
          List.getLast?_append_of_ne_nil _ ending.text_ne_nil] at ends
        have blank := LineEnd.isBlank_of_mem (List.mem_of_getLast? ends)
        rw [finalVisible] at blank
        contradiction
    · rwa [List.getLast?_append_of_ne_nil _ empty] at ends

/-! ## Lines between blanks -/

/-- The lines stand in the text one below the other, with ends of any kind and nothing but blanks
around them. -/
structure HoldsLines (text : List Char) (lines : List (List Char)) : Prop where
  are_rows : ∀ line ∈ lines, IsRow line
  trimmed : IsTrimmed lines
  exists_ends : ∃ before written last after,
    text = before ++ (endRows written ++ last) ++ after ∧
      lines = written.map Prod.fst ++ [last] ∧ AreSeparate written ∧
      (∀ c ∈ before, isBlank c = true) ∧ ∀ c ∈ after, isBlank c = true

theorem exists_holdsLines (visible : isBlank c = false) (membership : c ∈ text) :
    ∃ lines, HoldsLines text lines := by
  obtain ⟨before, after, parts, blankBefore, blankAfter⟩ := exists_blanks_strip text
  obtain ⟨written, last, shape, areRows, isRow, separate⟩ := exists_endRows (strip text)
  have nonempty : strip text ≠ [] := by
    rw [Ne, strip_eq_nil_iff, forall_isBlank_iff]
    exact fun blank => blank c visible membership
  have head := List.head?_eq_some_head nonempty
  have ends := List.getLast?_eq_some_getLast nonempty
  have firstVisible := isBlank_head_strip head
  have finalVisible := isBlank_getLast_strip ends
  rw [shape] at parts
  refine ⟨written.map Prod.fst ++ [last], ?_, ?_, before, written, last, after, parts, rfl,
    separate, blankBefore, blankAfter⟩
  · exact List.forall_mem_append.mpr ⟨List.forall_mem_map.mpr areRows,
      List.forall_mem_singleton.mpr isRow⟩
  · exact isTrimmed_of_endRows (shape ▸ head) firstVisible (shape ▸ ends) finalVisible

theorem flatMap_newline_append (rows : List (List Char)) (last : List Char) :
    rows.flatMap (· ++ ['\n']) ++ last = ['\n'].intercalate (rows ++ [last]) := by
  induction rows with
  | nil => simp
  | cons row rest inductionHypothesis =>
      rw [List.flatMap_cons, List.append_assoc, inductionHypothesis, List.cons_append,
        List.intercalate_cons_of_ne_nil (List.concat_ne_nil last rest)]

/-- Unifying the line ends leaves the lines, one below the other, between blanks. -/
theorem HoldsLines.exists_unifyNewlines_eq (holds : HoldsLines text lines) :
    ∃ before after, unifyNewlines text = before ++ ['\n'].intercalate lines ++ after ∧
      (∀ c ∈ before, isBlank c = true) ∧ ∀ c ∈ after, isBlank c = true := by
  obtain ⟨areRows, trimmed, before, written, last, after, rfl, rfl, separate, blankBefore,
    blankAfter⟩ := holds
  obtain ⟨areWritten, areLast⟩ := List.forall_mem_append.mp areRows
  have unified : unifyNewlines (endRows written ++ last) =
      ['\n'].intercalate (written.map Prod.fst ++ [last]) := by
    rw [unifyNewlines_endRows_append (List.forall_mem_map.mp areWritten)
      (List.forall_mem_singleton.mp areLast) separate, flatMap_newline_append]
  obtain ⟨first, head, firstVisible⟩ := trimmed.head?_intercalate
  obtain ⟨final, ends, finalVisible⟩ := trimmed.getLast?_intercalate
  rw [← unified] at head ends
  have nonempty : endRows written ++ last ≠ [] := by
    intro empty
    rw [empty] at head
    contradiction
  refine ⟨unifyNewlines before, unifyNewlines after, ?_,
    forall_isBlank_unifyNewlines_iff.mpr blankBefore,
    forall_isBlank_unifyNewlines_iff.mpr blankAfter⟩
  -- The blanks around the lines share no pair with them.
  rw [List.append_assoc, unifyNewlines_append_of_apart, unifyNewlines_append_of_apart, unified,
    List.append_assoc]
  · intro returned
    exact absurd returned (getLast?_ne_return ends finalVisible)
  · intro _
    rw [List.head?_append_of_ne_nil _ nonempty]
    exact head?_ne_newline head firstVisible

end Text

namespace Tree

variable {tree : Tree} {path : String} {text : List Char} {batch : Batch}

/-! ## Input texts -/

theorem inputLines_eq_nil_iff :
    inputLines (String.ofList text) = [] ↔ ∀ c ∈ text, Text.isBlank c = true := by
  unfold inputLines
  rw [String.toList_ofList, ← Text.strip_eq_nil_iff]
  split
  next empty => exact iff_of_true rfl empty
  next nonempty =>
    refine iff_of_false ?_ nonempty
    rw [List.map_eq_nil_iff]
    exact Text.splitWhere_ne_nil _ _

theorem inputLines_of_holdsLines {lines : List (List Char)} (holds : Text.HoldsLines text lines) :
    inputLines (String.ofList (Text.unifyNewlines text)) = lines.map String.ofList := by
  obtain ⟨before, after, unified, blankBefore, blankAfter⟩ := holds.exists_unifyNewlines_eq
  rw [unified]
  have unbroken : ∀ line ∈ lines, '\n' ∉ line :=
    fun line isLine => (holds.are_rows line isLine).no_newline
  exact inputLines_of_isTrimmed holds.trimmed unbroken blankBefore blankAfter

theorem holdsLines_inputLines
    (nonempty : inputLines (String.ofList (Text.unifyNewlines text)) ≠ []) :
    Text.HoldsLines text
      ((inputLines (String.ofList (Text.unifyNewlines text))).map String.toList) := by
  rw [Ne, inputLines_eq_nil_iff, Text.forall_isBlank_unifyNewlines_iff, Text.forall_isBlank_iff]
    at nonempty
  push Not at nonempty
  obtain ⟨c, visible, membership⟩ := nonempty
  obtain ⟨lines, holds⟩ := Text.exists_holdsLines visible membership
  rw [inputLines_of_holdsLines holds, List.map_map]
  simpa [Function.comp_def] using holds

/-! ## Input files -/

/-- An input file gives the lines that its text holds, and none if its text is all blanks. -/
theorem readInput_eq_ok_iff :
    tree.readInput path = .ok batch ↔
      batch.filename = (Path.ofString path).name ∧
        ∃ place text, tree.StoresAt path place (.ofText text) ∧
          (batch.lines = [] ∧ (∀ c ∈ text.toList, Text.isBlank c = true) ∨
            batch.lines ≠ [] ∧ Text.HoldsLines text.toList (batch.lines.map String.toList)) := by
  constructor
  · intro read
    obtain ⟨place, text, stores, rfl⟩ := exists_storesAt_of_readInput read
    refine ⟨rfl, place, text, stores, ?_⟩
    dsimp only
    by_cases empty : inputLines (String.ofList (Text.unifyNewlines text.toList)) = []
    · refine .inl ⟨empty, ?_⟩
      rwa [inputLines_eq_nil_iff, Text.forall_isBlank_unifyNewlines_iff] at empty
    · exact .inr ⟨empty, holdsLines_inputLines empty⟩
  · obtain ⟨filename, lines⟩ := batch
    rintro ⟨rfl, place, text, stores, given⟩
    rw [readInput_of_storesAt stores, Except.ok.injEq, Batch.mk.injEq]
    refine ⟨rfl, ?_⟩
    rcases given with ⟨empty, blank⟩ | ⟨_, holds⟩
    · dsimp only at empty
      rw [empty, inputLines_eq_nil_iff, Text.forall_isBlank_unifyNewlines_iff]
      exact blank
    · rw [inputLines_of_holdsLines holds, map_ofList_map_toList]

example : inputLines (String.ofList (Text.unifyNewlines "\n a\r\n\rb \r c\n\t".toList)) =
    ["a", "", "b ", " c"] := by decide +kernel

end Tree

end Acceptor
