import Acceptor.Text.Csv

/-!
The texts that hold a table, and what is read from them.

After a field, quoted or not, a reader stands where a comma or a line end closes the field, so
a text holds one table at most.  A printed table is held by its text.
-/

namespace Acceptor.Text.Csv

/-! ## What a text holds -/

/-- A text holds a field as it is, or between double quotes with its own written twice. -/
inductive HoldsField : List Char → List Char → Prop where
  | bare {cell : List Char} :
      (∀ c ∈ cell, c ≠ ',' ∧ c ≠ '\n') → cell.head? ≠ some '\x22' → HoldsField cell cell
  | quoted {cell : List Char} :
      HoldsField ('\x22' :: (doubleQuotes cell ++ ['\x22'])) cell

/-- The fields of a record are separated by commas, and it ends with `\n`. -/
inductive HoldsRecord : List Char → List (List Char) → Prop where
  | last {text cell : List Char} : HoldsField text cell → HoldsRecord (text ++ ['\n']) [cell]
  | cons {text cell rest : List Char} {cells : List (List Char)} :
      HoldsField text cell → HoldsRecord rest cells →
      HoldsRecord (text ++ ',' :: rest) (cell :: cells)

/-- The records of a table stand one after another. -/
inductive HoldsTable : List Char → List (List (List Char)) → Prop where
  | nil : HoldsTable [] []
  | cons {text rest : List Char} {cells : List (List Char)} {rows : List (List (List Char))} :
      HoldsRecord text cells → HoldsTable rest rows → HoldsTable (text ++ rest) (cells :: rows)

/-! ## Reading -/

variable {text rest cell : List Char} {row cells : List (List Char)}
  {rows others : List (List (List Char))}

theorem recordsFrom_comma {place : Place} (notQuoted : place ≠ .quoted) :
    recordsFrom place cell row (',' :: rest) =
      recordsFrom .start [] (cell.reverse :: row) rest := by
  cases place with
  | quoted => contradiction
  | start | bare | afterQuote => rfl

theorem recordsFrom_newline {place : Place} (notQuoted : place ≠ .quoted) :
    recordsFrom place cell row ('\n' :: rest) =
      (recordsFrom .start [] [] rest).map ((cell.reverse :: row).reverse :: ·) := by
  cases place with
  | quoted => contradiction
  | start | bare | afterQuote => rfl

theorem recordsFrom_doubleQuotes :
    recordsFrom .quoted cell row (doubleQuotes text ++ '\x22' :: rest) =
      recordsFrom .afterQuote (text.reverse ++ cell) row rest := by
  induction text generalizing cell with
  | nil => rfl
  | cons c text inductionHypothesis =>
      have rotate : (c :: text).reverse ++ cell = text.reverse ++ c :: cell := by simp
      rw [rotate, ← inductionHypothesis]
      by_cases isQuote : c = '\x22'
      · subst isQuote
        rfl
      · have plain : doubleQuotes (c :: text) = c :: doubleQuotes text := by
          simp [doubleQuotes, isQuote]
        rw [plain, List.cons_append, recordsFrom]
        simp only [if_neg isQuote]

theorem recordsFrom_bare (plain : ∀ c ∈ text, c ≠ ',' ∧ c ≠ '\n') :
    recordsFrom .bare cell row (text ++ rest) =
      recordsFrom .bare (text.reverse ++ cell) row rest := by
  induction text generalizing cell with
  | nil => rfl
  | cons c text inductionHypothesis =>
      obtain ⟨plainHere, plainText⟩ := List.forall_mem_cons.mp plain
      have kept : recordsFrom .bare cell row (c :: (text ++ rest)) =
          recordsFrom .bare (c :: cell) row (text ++ rest) := by
        simp [recordsFrom, plainHere]
      rw [List.cons_append, kept, inductionHypothesis plainText]
      simp

/-- What is read after a field stands as if the field had been read without quotes. -/
theorem HoldsField.exists_place (holds : HoldsField text cell) (rest : List Char)
    (row : List (List Char)) : ∃ place ≠ Place.quoted,
      recordsFrom .start [] row (text ++ rest) = recordsFrom place cell.reverse row rest := by
  cases holds with
  | quoted =>
      refine ⟨.afterQuote, by decide, ?_⟩
      have opened : recordsFrom .start [] row ('\x22' :: (doubleQuotes cell ++ '\x22' :: rest)) =
          recordsFrom .quoted [] row (doubleQuotes cell ++ '\x22' :: rest) := rfl
      rw [List.cons_append, List.append_assoc, List.singleton_append, opened,
        recordsFrom_doubleQuotes, List.append_nil]
  | bare plain unquoted =>
      cases text with
      | nil => exact ⟨.start, by decide, rfl⟩
      | cons c text =>
          refine ⟨.bare, by decide, ?_⟩
          obtain ⟨plainHere, plainText⟩ := List.forall_mem_cons.mp plain
          have notQuote : c ≠ '\x22' := fun isQuote => unquoted (isQuote ▸ rfl)
          have started : recordsFrom .start [] row (c :: (text ++ rest)) =
              recordsFrom .bare [c] row (text ++ rest) := by
            simp [recordsFrom, plainHere, notQuote]
          rw [List.cons_append, started, recordsFrom_bare plainText]
          simp

theorem HoldsRecord.recordsFrom_eq (holds : HoldsRecord text cells) (rest : List Char)
    (row : List (List Char)) :
    recordsFrom .start [] row (text ++ rest) =
      (recordsFrom .start [] [] rest).map ((row.reverse ++ cells) :: ·) := by
  induction holds generalizing row with
  | @last text cell holds =>
      obtain ⟨place, notQuoted, read⟩ := holds.exists_place ('\n' :: rest) row
      rw [List.append_assoc, List.singleton_append, read, recordsFrom_newline notQuoted]
      simp
  | @cons text cell others cells holds _ inductionHypothesis =>
      obtain ⟨place, notQuoted, read⟩ := holds.exists_place (',' :: (others ++ rest)) row
      rw [List.append_assoc, List.cons_append, read, recordsFrom_comma notQuoted,
        inductionHypothesis]
      simp

/-- A table is read from every text that holds it. -/
theorem HoldsTable.records?_eq (holds : HoldsTable text rows) : records? text = some rows := by
  unfold records?
  induction holds with
  | nil => rfl
  | @cons text rest cells rows holds _ inductionHypothesis =>
      rw [holds.recordsFrom_eq, inductionHypothesis]
      rfl

/-- A text holds one table at most. -/
theorem HoldsTable.unique (holds : HoldsTable text rows) (holdsOthers : HoldsTable text others) :
    rows = others :=
  Option.some.inj (holds.records?_eq.symm.trans holdsOthers.records?_eq)

/-! ## Printing -/

theorem holdsField_field (cell : List Char) : HoldsField (field cell) cell := by
  unfold field
  split
  · exact .quoted
  next plain =>
    simp only [needsQuotes, Bool.not_eq_true, List.any_eq_false, Bool.or_eq_true, beq_iff_eq,
      not_or] at plain
    refine .bare (fun c membership => ⟨(plain c membership).1.1, (plain c membership).2⟩) ?_
    intro first
    exact (plain _ (List.mem_of_mem_head? first)).1.2 rfl

theorem holdsRecord_record (nonempty : cells ≠ []) : HoldsRecord (record cells) cells := by
  induction cells with
  | nil => contradiction
  | cons first others inductionHypothesis =>
      cases others with
      | nil => exact .last (holdsField_field first)
      | cons second others =>
          exact .cons (holdsField_field first) (inductionHypothesis (List.cons_ne_nil _ _))

theorem holdsTable_table (nonempty : ∀ row ∈ rows, row ≠ []) : HoldsTable (table rows) rows := by
  induction rows with
  | nil => exact .nil
  | cons row rows inductionHypothesis =>
      obtain ⟨here, later⟩ := List.forall_mem_cons.mp nonempty
      exact .cons (holdsRecord_record here) (inductionHypothesis later)

/-- The text of a printed table holds its rows alone, whatever their fields are made of. -/
theorem holdsTable_table_iff (nonempty : ∀ row ∈ rows, row ≠ []) :
    HoldsTable (table rows) others ↔ others = rows := by
  constructor
  · intro holds
    exact holds.unique (holdsTable_table nonempty)
  · rintro rfl
    exact holdsTable_table nonempty

end Acceptor.Text.Csv
