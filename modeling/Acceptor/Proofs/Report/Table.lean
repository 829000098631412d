import Acceptor.Proofs.Automaton.Stops
import Acceptor.Proofs.Report.Tally
import Acceptor.Proofs.Result
import Acceptor.Proofs.Text.Csv

/-!
The text of the table of a report, and what is read from it.

The text holds one record for the names of the columns and one for each verdict, whatever the
lines, the states and the messages are made of, and it can be read in no other way.
-/

namespace Acceptor.Frame

/-! ## Records -/

/-- The texts of the cells about a line with a given number. -/
inductive IsRecord (number : Nat) (line : String) : Option Verdict → List String → Prop where
  | skipped : IsRecord number line none [toString number, line, "skipped", "", "", "", ""]
  | judged {verdict : Verdict} {final : String} :
      verdict.fault? = none → verdict.trace.getLast? = some final →
      IsRecord number line (some verdict)
        [toString number, line, if verdict.accepted then "accepted" else "rejected",
          if verdict.accepted then "True" else "False", final, " ".intercalate verdict.trace, ""]
  | stopped {verdict : Verdict} {fault : RunFault} {final message : String} :
      verdict.fault? = some fault → fault.IsToldBy message →
      verdict.trace.getLast? = some final →
      IsRecord number line (some verdict)
        [toString number, line, "error", if verdict.accepted then "True" else "False", final,
          " ".intercalate verdict.trace, message]

/-- The line of a batch at an index, empty if there is no batch. -/
def lineText (batch? : Option Batch) (index : Nat) : String :=
  (batch?.bind fun batch => batch.lines[index]?).getD ""

/-- The records are the table of a report: the names of the columns, then a record for each
verdict. -/
structure Tabulates (report : Report) (batch? : Option Batch) (records : List (List String)) :
    Prop where
  length_eq : records.length = report.verdicts.length + 1
  head?_eq : records.head? = some columns
  width_eq : ∀ record ∈ records, record.length = 7
  isRecord : ∀ index verdict?, report.verdicts[index]? = some verdict? →
    ∃ record, records[index + 1]? = some record ∧
      IsRecord (index + 1) (lineText batch? index) verdict? record

/-! ## Rows -/

theorem isRecord_of_row {number : Nat} {input? : Option String} {verdict? : Option Verdict}
    {made : Row} (isRow : row number input? verdict? = .ok made) :
    IsRecord number (input?.getD "") verdict? made.cells := by
  cases verdict? with
  | none =>
      cases isRow
      exact .skipped
  | some verdict =>
      rw [row] at isRow
      split at isRow
      · contradiction
      next final isFinal =>
        cases isRow
        -- A faulty verdict is an error even if it says that the line is accepted.
        obtain ⟨accepted, trace, fault?⟩ := verdict
        cases fault? with
        | none => cases accepted <;> exact .judged rfl isFinal
        | some fault =>
            have told := RunFault.isToldBy_iff.mpr (rfl : fault.message = _)
            cases accepted <;> exact .stopped rfl told isFinal

theorem rowsFrom_cons_eq_ok_iff {number : Nat} {input? : Option String}
    {verdict? : Option Verdict} {rest : List (Option String × Option Verdict)} {made : List Row} :
    rowsFrom number ((input?, verdict?) :: rest) = .ok made ↔
      ∃ first, row number input? verdict? = .ok first ∧
        ∃ others, rowsFrom (number + 1) rest = .ok others ∧ made = first :: others := by
  simp only [rowsFrom, Except.bind_eq_ok_iff, pure, Except.pure, Except.ok.injEq]
  simp only [eq_comm (b := made)]

/-- Each item has its row, numbered by its place. -/
theorem row_of_rowsFrom {items : List (Option String × Option Verdict)} {number : Nat}
    {made : List Row} (isMade : rowsFrom number items = .ok made) :
    made.length = items.length ∧ ∀ (index : Nat) input? verdict?,
      items[index]? = some (input?, verdict?) →
        ∃ found, made[index]? = some found ∧
          row (number + index) input? verdict? = .ok found := by
  induction items generalizing number made with
  | nil =>
      cases isMade
      exact ⟨rfl, nofun⟩
  | cons item rest inductionHypothesis =>
      obtain ⟨first, isFirst, others, areOthers, rfl⟩ := rowsFrom_cons_eq_ok_iff.mp isMade
      obtain ⟨length, found⟩ := inductionHypothesis areOthers
      refine ⟨congrArg Nat.succ length, fun index input? verdict? isItem => ?_⟩
      cases index with
      | zero =>
          cases isItem
          exact ⟨first, rfl, isFirst⟩
      | succ index =>
          obtain ⟨later, isLater, isRow⟩ := found index input? verdict? isItem
          rw [Nat.add_right_comm] at isRow
          exact ⟨later, isLater, isRow⟩

/-- The items of which the rows of a report are made. -/
theorem exists_items_of_rows {report : Report} {batch? : Option Batch} {made : List Row}
    (isMade : rows report batch? = .ok made) :
    ∃ items, rowsFrom 1 items = .ok made ∧ items.length = report.verdicts.length ∧
      ∀ (index : Nat) verdict?, report.verdicts[index]? = some verdict? →
        items[index]? = some (batch?.bind fun batch => batch.lines[index]?, verdict?) := by
  unfold rows at isMade
  split at isMade
  next =>
    refine ⟨_, isMade, List.length_map _, fun index verdict? isVerdict => ?_⟩
    rw [List.getElem?_map, isVerdict]
    rfl
  next batch =>
    split at isMade
    next fits =>
      refine ⟨_, isMade, by simp [fits], fun index verdict? isVerdict => ?_⟩
      obtain ⟨inRange, _⟩ := List.getElem?_eq_some_iff.mp isVerdict
      have isLine := List.getElem?_eq_getElem (fits ▸ inRange : index < batch.lines.length)
      simp [List.getElem?_zip_eq_some, isVerdict, isLine]
    · contradiction

/-! ## Tables -/

theorem tabulates_of_rows {report : Report} {batch? : Option Batch} {made : List Row}
    (isMade : rows report batch? = .ok made) :
    Tabulates report batch? (columns :: made.map Row.cells) := by
  obtain ⟨items, fromItems, length, isItem⟩ := exists_items_of_rows isMade
  obtain ⟨madeLength, isRow⟩ := row_of_rowsFrom fromItems
  refine ⟨?_, rfl, ?_, fun index verdict? isVerdict => ?_⟩
  · rw [List.length_cons, List.length_map, madeLength, length]
  · refine List.forall_mem_cons.mpr ⟨rfl, List.forall_mem_map.mpr fun _ _ => rfl⟩
  · obtain ⟨found, isFound, made⟩ := isRow index _ _ (isItem index verdict? isVerdict)
    rw [Nat.add_comm] at made
    refine ⟨found.cells, ?_, isRecord_of_row made⟩
    rw [List.getElem?_cons_succ, List.getElem?_map, isFound]
    rfl

theorem holdsTable_csv_iff {made : List Row} {table : List (List (List Char))} :
    Text.Csv.HoldsTable (csv made).toList table ↔
      table = (columns :: made.map Row.cells).map (List.map String.toList) := by
  rw [csv, String.toList_ofList]
  apply Text.Csv.holdsTable_table_iff
  rw [List.map_cons, List.map_map]
  refine List.forall_mem_cons.mpr ⟨by simp [columns], List.forall_mem_map.mpr ?_⟩
  intro found _
  exact List.cons_ne_nil _ _

theorem records?_csv (made : List Row) :
    Text.Csv.records? (csv made).toList =
      some ((columns :: made.map Row.cells).map (List.map String.toList)) :=
  (holdsTable_csv_iff.mpr rfl).records?_eq

/-- A report without empty traces has a table, whose text holds its records and no others. -/
theorem exists_tabulates {report : Report} {batch? : Option Batch}
    (visits : ∀ verdict ∈ report.given, verdict.trace ≠ [])
    (fits : ∀ batch, batch? = some batch → batch.lines.length = report.verdicts.length) :
    ∃ made records, rows report batch? = .ok made ∧ Tabulates report batch? records ∧
      Text.Csv.records? (csv made).toList = some (records.map (List.map String.toList)) ∧
      ∀ table, Text.Csv.HoldsTable (csv made).toList table ↔
        table = records.map (List.map String.toList) := by
  obtain ⟨made, isMade, _⟩ := exists_rows visits fits
  exact ⟨made, columns :: made.map Row.cells, isMade, tabulates_of_rows isMade, records?_csv made,
    fun _ => holdsTable_csv_iff⟩

/-- A report whose states hold commas, quotes and line ends, on a batch whose lines do. -/
def untidyReport : Report where
  filename := "untidy.in"
  verdicts := [
    some { accepted := true, trace := ["a,b", "\"c\""] },
    some {
      accepted := false
      trace := ["x\ny"]
      fault? := some {
        kind := .noTransition, symbol := ",", position := 0, state? := some "x\ny" } },
    none]
  cancelled := true
  complete_or_cancelled := by decide

def untidyBatch : Batch where
  filename := "untidy.in"
  lines := ["say \"a\", twice", ",", "\n"]

theorem exists_tabulates_untidyReport :
    (∃ made, ∃ records : List (List String), rows untidyReport (some untidyBatch) = .ok made ∧
      Text.Csv.records? (csv made).toList = some (records.map (List.map String.toList)) ∧
      records[1]? = some
        ["1", "say \"a\", twice", "accepted", "True", "\"c\"", "a,b \"c\"", ""] ∧
      records[3]? = some ["3", "\n", "skipped", "", "", "", ""]) ∧
    ∃ made, ∃ records : List (List String), rows untidyReport none = .ok made ∧
      Text.Csv.records? (csv made).toList = some (records.map (List.map String.toList)) ∧
      records[2]? = some ["2", "", "error", "False", "x\ny", "x\ny",
        "no transition from state 'x\\ny' on symbol ',' (position 0)"] := by
  have visits : ∀ verdict ∈ untidyReport.given, verdict.trace ≠ [] := by decide
  have fits : ∀ batch, some untidyBatch = some batch →
      batch.lines.length = untidyReport.verdicts.length := by
    rintro _ ⟨⟩
    rfl
  have fitsNone : ∀ batch, (none : Option Batch) = some batch →
      batch.lines.length = untidyReport.verdicts.length := nofun
  constructor
  · obtain ⟨made, records, isMade, tabulates, read, _⟩ := exists_tabulates visits fits
    obtain ⟨first, isFirst, firstRecord⟩ := tabulates.isRecord 0 _ rfl
    obtain ⟨last, isLast, lastRecord⟩ := tabulates.isRecord 2 _ rfl
    refine ⟨made, records, isMade, read, ?_, ?_⟩
    · rw [isFirst]
      cases firstRecord with
      | judged unfaulted isFinal =>
          cases isFinal
          rfl
      | stopped faulted _ _ => contradiction
    · rw [isLast]
      cases lastRecord
      rfl
  · obtain ⟨made, records, isMade, tabulates, read, _⟩ := exists_tabulates visits fitsNone
    obtain ⟨second, isSecond, secondRecord⟩ := tabulates.isRecord 1 _ rfl
    refine ⟨made, records, isMade, read, ?_⟩
    rw [isSecond]
    cases secondRecord with
    | judged unfaulted _ => contradiction
    | stopped faulted told isFinal =>
        cases faulted
        cases told
        cases isFinal
        decide +kernel

end Acceptor.Frame
