import Acceptor.Report.Frame
import Acceptor.Report.Summary

/-!
The counts over a report against the rows of its table.

A row has one outcome, and a fault goes before an acceptance, while a verdict that is accepted and
faulty is taken off twice to get the rejected ones.  So counts and rows agree unless there is such
a verdict.
-/

namespace Acceptor

/-! ## Outcomes -/

namespace Verdict

def isRejected (verdict : Verdict) : Bool :=
  !verdict.accepted && verdict.fault?.isNone

/-- The line is accepted although its run stopped before its end. -/
def isTorn (verdict : Verdict) : Bool :=
  verdict.accepted && verdict.fault?.isSome

def isClean (verdict : Verdict) : Bool :=
  verdict.accepted && verdict.fault?.isNone

theorem countP_accepted (verdicts : List Verdict) :
    verdicts.countP (fun verdict => verdict.accepted) =
      verdicts.countP isTorn + verdicts.countP isClean := by
  rw [List.countP_eq_countP_filter_add _ _ fun verdict => verdict.fault?.isSome,
    List.countP_filter, List.countP_filter]
  simp only [Option.not_isSome]
  rfl

/-- A run stops, or it comes to its end and the line is accepted or rejected. -/
theorem length_eq_countP (verdicts : List Verdict) :
    verdicts.length =
      verdicts.countP (fun verdict => verdict.fault?.isSome) +
        (verdicts.countP isClean + verdicts.countP isRejected) := by
  induction verdicts with
  | nil => rfl
  | cons verdict rest inductionHypothesis =>
      obtain ⟨accepted, trace, fault?⟩ := verdict
      simp only [List.length_cons, List.countP_cons]
      cases accepted <;> cases fault? <;> simp [isClean, isRejected, inductionHypothesis] <;> omega

end Verdict

namespace Status

variable {verdict : Verdict}

theorem ofVerdict_eq_error_iff :
    ofVerdict (some verdict) = .error ↔ verdict.fault?.isSome = true := by
  obtain ⟨accepted, trace, fault?⟩ := verdict
  cases accepted <;> cases fault? <;> simp [ofVerdict]

theorem ofVerdict_eq_accepted_iff :
    ofVerdict (some verdict) = .accepted ↔ verdict.isClean = true := by
  obtain ⟨accepted, trace, fault?⟩ := verdict
  cases accepted <;> cases fault? <;> simp [ofVerdict, Verdict.isClean]

theorem ofVerdict_eq_rejected_iff :
    ofVerdict (some verdict) = .rejected ↔ verdict.isRejected = true := by
  obtain ⟨accepted, trace, fault?⟩ := verdict
  cases accepted <;> cases fault? <;> simp [ofVerdict, Verdict.isRejected]

theorem ofVerdict_eq_skipped_iff {verdict? : Option Verdict} :
    ofVerdict verdict? = .skipped ↔ verdict? = none := by
  cases verdict? with
  | none => simp [ofVerdict]
  | some verdict =>
      obtain ⟨accepted, trace, fault?⟩ := verdict
      cases accepted <;> cases fault? <;> simp [ofVerdict]

end Status

namespace Report

variable (report : Report)

def statuses : List Status :=
  report.verdicts.map Status.ofVerdict

theorem length_eq_count_skipped :
    report.verdicts.length = report.statuses.count .skipped + report.given.length := by
  rw [statuses, given, List.count, List.countP_map, List.length_filterMap_eq_countP,
    List.length_eq_countP_add_countP fun verdict? => Status.ofVerdict verdict? == .skipped]
  apply Nat.add_left_cancel_iff.mpr
  apply List.countP_congr
  intro verdict? _
  simp [Status.ofVerdict_eq_skipped_iff, Option.isSome_iff_ne_none]

variable {report}

/-- The outcomes other than that of a line that was left out are those of the given verdicts. -/
theorem count_eq_countP {status : Status} {isIt : Verdict → Bool} (run : status ≠ .skipped)
    (is_iff : ∀ verdict, Status.ofVerdict (some verdict) = status ↔ isIt verdict = true) :
    report.statuses.count status = report.given.countP isIt := by
  rw [statuses, given, List.count, List.countP_map, List.countP_filterMap]
  apply List.countP_congr
  intro verdict? _
  cases verdict? with
  | none => simp [Status.ofVerdict, run.symm]
  | some verdict => simp [is_iff]

theorem count_error :
    report.statuses.count .error = report.given.countP fun verdict => verdict.fault?.isSome :=
  count_eq_countP (by decide) fun _ => Status.ofVerdict_eq_error_iff

theorem count_accepted : report.statuses.count .accepted = report.given.countP Verdict.isClean :=
  count_eq_countP (by decide) fun _ => Status.ofVerdict_eq_accepted_iff

theorem count_rejected : report.statuses.count .rejected = report.given.countP Verdict.isRejected :=
  count_eq_countP (by decide) fun _ => Status.ofVerdict_eq_rejected_iff

end Report

/-! ## Rows -/

namespace Frame

/-- Each line has a row if no verdict has an empty trace. -/
theorem exists_rowsFrom {items : List (Option String × Option Verdict)}
    (visits : ∀ verdict, some verdict ∈ items.map Prod.snd → verdict.trace ≠ [])
    (number : Nat) :
    ∃ rows, rowsFrom number items = .ok rows ∧
      rows.map Row.status = (items.map Prod.snd).map Status.ofVerdict := by
  induction items generalizing number with
  | nil => exact ⟨[], rfl, rfl⟩
  | cons item rest inductionHypothesis =>
      obtain ⟨input?, verdict?⟩ := item
      have othersVisit : ∀ verdict, some verdict ∈ rest.map Prod.snd → verdict.trace ≠ [] :=
        fun verdict later => visits verdict (List.mem_cons_of_mem _ later)
      obtain ⟨rows, othersMade, statuses⟩ := inductionHypothesis othersVisit (number + 1)
      have exists_row : ∃ first, row number input? verdict? = .ok first ∧
          first.status = Status.ofVerdict verdict? := by
        cases verdict? with
        | none => exact ⟨_, rfl, rfl⟩
        | some verdict =>
            have isFinal := List.getLast?_eq_some_getLast (visits verdict List.mem_cons_self)
            simp only [row, Verdict.final?, isFinal]
            exact ⟨_, rfl, rfl⟩
      obtain ⟨first, made, status⟩ := exists_row
      refine ⟨first :: rows, ?_, ?_⟩
      · rw [rowsFrom, made, othersMade]
        rfl
      · rw [List.map_cons, List.map_cons, List.map_cons, status, statuses]

theorem exists_rows {report : Report} {batch? : Option Batch}
    (visits : ∀ verdict ∈ report.given, verdict.trace ≠ [])
    (fits : ∀ batch, batch? = some batch → batch.lines.length = report.verdicts.length) :
    ∃ rows, Frame.rows report batch? = .ok rows ∧ rows.map Row.status = report.statuses := by
  have allVisit : ∀ verdict, some verdict ∈ report.verdicts → verdict.trace ≠ [] :=
    fun verdict isVerdict => visits verdict (List.mem_filterMap.mpr ⟨_, isVerdict, rfl⟩)
  cases batch? with
  | none =>
      have verdicts : (report.verdicts.map ((none : Option String), ·)).map Prod.snd =
          report.verdicts := by
        rw [List.map_map]
        exact List.map_id _
      obtain ⟨rows, made, statuses⟩ := exists_rowsFrom (by rwa [verdicts]) 1
      exact ⟨rows, made, statuses.trans (congrArg _ verdicts)⟩
  | some batch =>
      have verdicts : ((batch.lines.map some).zip report.verdicts).map Prod.snd =
          report.verdicts := by
        apply List.map_snd_zip
        exact Nat.le_of_eq ((List.length_map some).trans (fits batch rfl)).symm
      obtain ⟨rows, made, statuses⟩ := exists_rowsFrom (by rwa [verdicts]) 1
      refine ⟨rows, ?_, statuses.trans (congrArg _ verdicts)⟩
      rw [Frame.rows, if_pos (fits batch rfl), made]

end Frame

/-! ## Summaries -/

namespace Summary

/-- Each count is the number of rows with its outcome. -/
structure Agrees (summary : Summary) (rows : List Frame.Row) : Prop where
  accepted : summary.accepted = (rows.map Frame.Row.status).count .accepted
  rejected : summary.rejected = (rows.map Frame.Row.status).count .rejected
  errored : summary.errored = (rows.map Frame.Row.status).count .error
  skipped : summary.skipped = (rows.map Frame.Row.status).count .skipped

variable {report : Report}

theorem rejected_ofReport : (ofReport report).rejected =
    (report.given.countP Verdict.isRejected : Int) - report.given.countP Verdict.isTorn := by
  have given := Verdict.length_eq_countP report.given
  have accepted := Verdict.countP_accepted report.given
  simp only [ofReport]
  omega

theorem agrees_ofReport_iff {rows : List Frame.Row}
    (statuses : rows.map Frame.Row.status = report.statuses) :
    (ofReport report).Agrees rows ↔ report.given.countP Verdict.isTorn = 0 := by
  have skipped := report.length_eq_count_skipped
  have accepted := Verdict.countP_accepted report.given
  constructor
  · intro agrees
    have same : report.given.countP (fun verdict => verdict.accepted) = _ := agrees.accepted
    rw [statuses, Report.count_accepted] at same
    omega
  · intro noneTorn
    constructor
    · rw [statuses, Report.count_accepted]
      exact accepted.trans (by omega)
    · rw [statuses, Report.count_rejected, rejected_ofReport, noneTorn]
      exact Int.sub_zero _
    · rw [statuses, Report.count_error]
      rfl
    · rw [statuses]
      exact Nat.sub_eq_of_eq_add skipped

end Summary

end Acceptor
