import Acceptor.Proofs.Automaton.Stops
import Acceptor.Proofs.Batch.Run
import Acceptor.Proofs.Report.Record
import Acceptor.Proofs.Report.Tally
import Acceptor.Proofs.Text.Pieces

/-!
What is made of the report on a batch that is run to the end.

Every form of the report is the same list of verdicts, line by line.
-/

namespace Acceptor

def Verdict.word (verdict : Verdict) : String :=
  if verdict.accepted then "VALID" else "INVALID"

namespace Automaton

variable {automaton : Automaton} {line : String} {fault : RunFault}

theorem fault?_of_accepted (accepted : (automaton.simulate line).accepted = true) :
    (automaton.simulate line).fault? = none := by
  obtain ⟨length, longest, isVerdict, _⟩ := automaton.exists_isVerdict_simulate line
  rcases Nat.lt_or_eq_of_le longest.1.1 with early | finished
  · rw [(isVerdict.stopped early).1] at accepted
    contradiction
  · exact (isVerdict.finished finished).1

theorem isTorn_simulate (automaton : Automaton) (line : String) :
    (automaton.simulate line).isTorn = false := by
  unfold Verdict.isTorn
  cases accepted : (automaton.simulate line).accepted with
  | false => rfl
  | true =>
      rw [fault?_of_accepted accepted]
      rfl

theorem countP_isTorn_simulate (automaton : Automaton) (lines : List String) :
    (lines.map automaton.simulate).countP Verdict.isTorn = 0 := by
  rw [List.countP_eq_zero, List.forall_mem_map]
  intro line _
  rw [isTorn_simulate]
  exact Bool.false_ne_true

theorem trace_simulate_ne_nil (automaton : Automaton) (line : String) :
    (automaton.simulate line).trace ≠ [] := by
  obtain ⟨length, _, isVerdict, _⟩ := automaton.exists_isVerdict_simulate line
  apply List.ne_nil_of_length_pos
  rw [isVerdict.trace_length]
  exact Nat.succ_pos length

/-- Only a line that is longer than any number with the most digits that are read can stop a run at
a position with more digits. -/
theorem positionFits_simulate (short : line.length < 10 ^ Json.maxDigits) :
    (automaton.simulate line).PositionFits := by
  intro fault stopped
  rw [simulate, fault?_simulateFrom_eq_some_iff] at stopped
  obtain ⟨before, last, symbol, rest, shape, _, _, rfl⟩ := stopped
  have counted : line.length = before.length + (rest.length + 1) := by
    rw [← String.length_toList, shape, List.length_append, List.length_cons]
  rw [position_stopFault, Nat.zero_add, Json.IsShort, Int.natAbs_natCast,
    Nat.length_toDigits_le_iff (by decide) (by decide)]
  omega

end Automaton

namespace Batch

variable {automaton : Automaton} {workers : Workers} {batch : Batch}

theorem verdicts_run_none (automaton : Automaton) (workers : Workers) (batch : Batch) :
    (batch.run automaton workers none).verdicts =
      batch.lines.map fun line => some (automaton.simulate line) := by
  apply List.ext_getElem?
  intro index
  rw [List.getElem?_map]
  exact getElem?_verdicts automaton workers none batch.lines index

theorem given_run_none (automaton : Automaton) (workers : Workers) (batch : Batch) :
    (batch.run automaton workers none).given = batch.lines.map automaton.simulate := by
  rw [Report.given, verdicts_run_none, List.filterMap_map]
  exact congrFun List.filterMap_eq_map batch.lines

theorem cancelled_run_none (automaton : Automaton) (workers : Workers) (batch : Batch) :
    (batch.run automaton workers none).cancelled = false := by
  rw [← Bool.not_eq_true, cancelled_run_iff]
  simp

/-- A run that leaves no line out is a run that nobody stops. -/
theorem run_eq_run_none {cancelAfter? : Option Nat}
    (finished : (batch.run automaton workers cancelAfter?).cancelled = false) :
    batch.run automaton workers cancelAfter? = batch.run automaton workers none := by
  have allAllowed : batch.lines.length ≤ allowance cancelAfter? batch.lines := by
    rw [run, Bool.not_eq_false'] at finished
    apply Nat.le_of_not_lt
    intro left
    rw [all_isSome_verdicts_eq_false_iff.mpr left] at finished
    contradiction
  have whole : verdicts automaton workers cancelAfter? batch.lines =
      verdicts automaton workers none batch.lines := by
    rw [verdicts_eq, verdicts_eq, allowance.eq_def none, Option.getD_none,
      List.take_of_length_le allAllowed, Nat.sub_eq_zero_of_le allAllowed, List.take_length,
      Nat.sub_self]
  simp only [run, whole]

/-! ## Counts -/

def summary (automaton : Automaton) (lines : List String) : Summary where
  total := lines.length
  accepted := lines.countP fun line => (automaton.simulate line).accepted
  rejected := lines.countP fun line => (automaton.simulate line).isRejected
  errored := lines.countP fun line => (automaton.simulate line).fault?.isSome
  skipped := 0

theorem ofReport_run_none (automaton : Automaton) (workers : Workers) (batch : Batch) :
    Summary.ofReport (batch.run automaton workers none) = summary automaton batch.lines := by
  have rejected : (Summary.ofReport (batch.run automaton workers none)).rejected =
      (summary automaton batch.lines).rejected := by
    rw [Summary.rejected_ofReport, given_run_none, automaton.countP_isTorn_simulate,
      List.countP_map]
    exact Int.sub_zero _
  simp only [Summary.ofReport, given_run_none, verdicts_run_none, List.length_map,
    List.countP_map, Function.comp_def, summary, Nat.sub_self, Summary.mk.injEq, true_and,
    and_true] at rejected ⊢
  exact rejected

/-! ## Files -/

theorem output_run_none (automaton : Automaton) (workers : Workers) (batch : Batch) :
    (batch.run automaton workers none).output =
      .ok (String.join (batch.lines.map fun line =>
        (automaton.simulate line).word ++ "\n")) := by
  rw [Report.output, cancelled_run_none, given_run_none, List.map_map]
  rfl

/-- The lines of the verdict file are the words for the verdicts. -/
theorem lines_words (automaton : Automaton) (lines : List String) :
    Text.lines (String.join (lines.map fun line =>
        (automaton.simulate line).word ++ "\n")).toList =
      lines.map (fun line => (automaton.simulate line).word.toList) ++ [[]] := by
  have unbroken : ∀ row ∈ lines.map fun line => (automaton.simulate line).word.toList,
      '\n' ∉ row := by
    rw [List.forall_mem_map]
    intro line _
    unfold Verdict.word
    split <;> decide
  rw [← Text.lines_flatMap unbroken]
  simp [String.toList_join, List.flatMap_map]

theorem exists_rows_run_none (automaton : Automaton) (workers : Workers) (batch : Batch) :
    ∃ rows, Frame.rows (batch.run automaton workers none) (some batch) = .ok rows := by
  have visits : ∀ verdict ∈ (batch.run automaton workers none).given, verdict.trace ≠ [] := by
    rw [given_run_none, List.forall_mem_map]
    exact fun line _ => automaton.trace_simulate_ne_nil line
  have fits : ∀ other, some batch = some other →
      other.lines.length = (batch.run automaton workers none).verdicts.length := by
    rintro _ ⟨⟩
    rw [verdicts_run_none, List.length_map]
  obtain ⟨rows, made, _⟩ := Frame.exists_rows visits fits
  exact ⟨rows, made⟩

theorem positionsFit_run_none (automaton : Automaton) (workers : Workers)
    (short : ∀ line ∈ batch.lines, line.length < 10 ^ Json.maxDigits) :
    (batch.run automaton workers none).PositionsFit := by
  intro verdict isGiven
  rw [given_run_none] at isGiven
  obtain ⟨line, isLine, rfl⟩ := List.mem_map.mp isGiven
  exact Automaton.positionFits_simulate (short line isLine)

end Batch

end Acceptor
