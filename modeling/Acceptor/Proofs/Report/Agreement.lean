import Acceptor.Proofs.Batch.Returned
import Acceptor.Proofs.Report.Complete

/-!
Reports whose counts are those of their rows.

No run of an automaton ends with a verdict that is accepted and faulty, so whatever report a batch
comes back with, its counts are right.
-/

namespace Acceptor

namespace Batch.Returns

variable {automaton : Automaton} {workers : Workers} {cancelAfter? : Option Nat} {batch : Batch}
  {report : Report} {verdict : Verdict}
  (returns : Returns automaton workers cancelAfter? batch report)
include returns

theorem isTorn_of_given (isGiven : verdict ∈ report.given) : verdict.isTorn = false := by
  obtain ⟨line, _, rfl⟩ := returns.exists_line_of_given isGiven
  exact automaton.isTorn_simulate line

theorem trace_ne_nil_of_given (isGiven : verdict ∈ report.given) : verdict.trace ≠ [] := by
  obtain ⟨line, _, rfl⟩ := returns.exists_line_of_given isGiven
  exact automaton.trace_simulate_ne_nil line

end Batch.Returns

namespace Report

variable {report : Report} {batch : Batch}

/-- The counts over the report on a batch are right, and they are those of its table. -/
structure Tallies (batch : Batch) (report : Report) : Prop where
  isTorn_eq_false : ∀ verdict ∈ report.given, verdict.isTorn = false
  exists_rows : ∃ rows, Frame.rows report (some batch) = .ok rows ∧
    (Summary.ofReport report).Agrees rows
  rejected_nonneg : 0 ≤ (Summary.ofReport report).rejected
  total_eq : ((Summary.ofReport report).total : Int) =
    (Summary.ofReport report).accepted + (Summary.ofReport report).rejected +
      (Summary.ofReport report).errored + (Summary.ofReport report).skipped
  rejected_eq : (Summary.ofReport report).rejected = report.given.countP Verdict.isRejected
  accepted_le : (Summary.ofReport report).accepted ≤ (Summary.ofReport report).evaluated

theorem countP_isTorn_eq_zero_iff :
    report.given.countP Verdict.isTorn = 0 ↔
      ∀ verdict ∈ report.given, verdict.isTorn = false := by
  simp only [List.countP_eq_zero, Bool.not_eq_true]

theorem total_ofReport (report : Report) :
    ((Summary.ofReport report).total : Int) =
      (Summary.ofReport report).accepted + (Summary.ofReport report).rejected +
        (Summary.ofReport report).errored + (Summary.ofReport report).skipped := by
  have skipped := report.length_eq_count_skipped
  simp only [Summary.ofReport]
  omega

theorem accepted_le_evaluated (report : Report) :
    (Summary.ofReport report).accepted ≤ (Summary.ofReport report).evaluated := by
  have skipped := report.length_eq_count_skipped
  have accepted : report.given.countP (fun verdict => verdict.accepted) ≤ report.given.length :=
    List.countP_le_length
  simp only [Summary.ofReport, Summary.evaluated]
  omega

theorem exists_rows_agrees_iff {batch? : Option Batch}
    (visits : ∀ verdict ∈ report.given, verdict.trace ≠ [])
    (fits : ∀ batch, batch? = some batch → batch.lines.length = report.verdicts.length) :
    ∃ rows, Frame.rows report batch? = .ok rows ∧
      ((Summary.ofReport report).Agrees rows ↔
        ∀ verdict ∈ report.given, verdict.isTorn = false) := by
  obtain ⟨rows, made, statuses⟩ := Frame.exists_rows visits fits
  exact ⟨rows, made, (Summary.agrees_ofReport_iff statuses).trans countP_isTorn_eq_zero_iff⟩

theorem tallies_of_returns {automaton : Automaton} {workers : Workers} {cancelAfter? : Option Nat}
    (returns : batch.Returns automaton workers cancelAfter? report) : Tallies batch report := by
  have untorn : ∀ verdict ∈ report.given, verdict.isTorn = false := fun _ => returns.isTorn_of_given
  have fits : ∀ other, some batch = some other → other.lines.length = report.verdicts.length := by
    rintro _ ⟨⟩
    exact returns.length_eq.symm
  obtain ⟨rows, made, agrees_iff⟩ :=
    exists_rows_agrees_iff (fun _ => returns.trace_ne_nil_of_given) fits
  have rejected : (Summary.ofReport report).rejected = report.given.countP Verdict.isRejected := by
    rw [Summary.rejected_ofReport, countP_isTorn_eq_zero_iff.mpr untorn]
    exact Int.sub_zero _
  exact {
    isTorn_eq_false := untorn
    exists_rows := ⟨rows, made, agrees_iff.mpr untorn⟩
    rejected_nonneg := rejected ▸ Int.natCast_nonneg _
    total_eq := total_ofReport report
    rejected_eq := rejected
    accepted_le := accepted_le_evaluated report }

/-- Counts and rows agree exactly if no verdict is accepted and faulty, and a batch comes back with
no such report. -/
theorem agrees_iff_and_tallies_of_returns :
    (∀ (report : Report) (batch? : Option Batch),
      (∀ verdict ∈ report.given, verdict.trace ≠ []) →
      (∀ batch, batch? = some batch → batch.lines.length = report.verdicts.length) →
        ∃ rows, Frame.rows report batch? = .ok rows ∧
          ((Summary.ofReport report).Agrees rows ↔
            ∀ verdict ∈ report.given, verdict.isTorn = false)) ∧
      ∀ (automaton : Automaton) (workers : Workers) (cancelAfter? : Option Nat) (batch : Batch)
        (report : Report), batch.Returns automaton workers cancelAfter? report →
          Tallies batch report := by
  constructor
  · intro report batch? visits fits
    exact exists_rows_agrees_iff visits fits
  · intro automaton workers cancelAfter? batch report returns
    exact tallies_of_returns returns

def tornReport : Report where
  filename := "torn.in"
  verdicts := [
    some {
      accepted := true
      trace := ["s"]
      fault? := some { kind := .unknownSymbol, symbol := "b", position := 0 } },
    none]
  cancelled := true
  complete_or_cancelled := by decide

/-- The torn verdict counts as accepted and has the row of a fault; the report on a batch that is
stopped after two lines is counted right. -/
theorem not_agrees_tornReport :
    (∃ rows, Frame.rows tornReport none = .ok rows ∧
        ¬ (Summary.ofReport tornReport).Agrees rows) ∧
      Tallies Batch.mixedBatch (Batch.mixedBatch.run Batch.unary { count := 4 } (some 2)) := by
  obtain ⟨ofAny, ofReturned⟩ := agrees_iff_and_tallies_of_returns
  obtain ⟨rows, made, agrees_iff⟩ := ofAny tornReport none (by decide) nofun
  refine ⟨⟨rows, made, ?_⟩, ofReturned _ _ _ _ _ (Batch.returns_run _ _ _ _)⟩
  rw [agrees_iff]
  decide

end Report

end Acceptor
