import Acceptor.Files.Write
import Acceptor.Proofs.Files.Places
import Acceptor.Proofs.Report.Record
import Acceptor.Proofs.Text.Utf8

/-!
Report files are read back.
-/

namespace Acceptor

theorem Tree.readReport_of_storesAt {tree : Tree} {path text : String} {place : List String}
    {value : Json} {report : Report} (stores : tree.StoresAt path place (.ofText text))
    (parsed : Json.read text = .ok value) (recorded : Report.ofJson value = .ok report) :
    tree.readReport path = .ok report := by
  simp only [readReport, stores.holds, stores.read, Content.ofText, Text.Utf8.decode_encode,
    String.ofList_toList, parsed, recorded, Except.mapError, bind, Except.bind, Bool.not_true,
    Bool.false_eq_true, if_false]

theorem Tree.readReport_of_written {tree after : Tree} {path text : String} {value : Json}
    {report : Report} (written : tree.write path (.ofText text) = .ok after)
    (parsed : Json.read text = .ok value) (recorded : Report.ofJson value = .ok report) :
    after.readReport path = .ok report := by
  obtain ⟨place, stores⟩ := target_of_write written
  exact readReport_of_storesAt stores parsed recorded

namespace Report

/-- A report is written in ASCII wherever a file can be written, and it is what is read of the
file. -/
theorem isAscii_and_exists_readReport {report : Report} (fits : report.PositionsFit) :
    Json.IsAscii report.toJson.print.toList ∧
      ∀ (tree : Tree) (path : String), tree.IsWritable path →
        ∃ after, tree.writeReport report path = .ok after ∧
          after.read path = .ok (.ofText report.toJson.print) ∧
          after.readReport path = .ok report := by
  have jsonFits : Json.Fits Json.maxDepth report.toJson := fits_toJson 986 fits
  constructor
  · rw [Json.print, String.toList_ofList]
    exact Json.isAscii_printAt jsonFits 0
  · intro tree path writable
    obtain ⟨after, written⟩ := writable.exists_write (.ofText report.toJson.print)
    refine ⟨after, ?_, Tree.read_of_write written, ?_⟩
    · rw [Tree.writeReport, written]
      rfl
    · exact Tree.readReport_of_written written (Json.read_print jsonFits) report.ofJson_toJson

/-- A cancelled report with a line that was left out, and with characters that are escaped. -/
def cancelledReport : Report where
  filename := "a \"b\" \x01.txt"
  verdicts := [
    some {
      accepted := false
      trace := []
      fault? := some {
        kind := .noTransition
        symbol := "😀"
        position := -3
        state? := some "q\\é\n" } },
    none]
  cancelled := true
  complete_or_cancelled := by decide

theorem positionsFit_cancelledReport : cancelledReport.PositionsFit := by
  intro verdict membership fault found
  have onlyVerdict : verdict.fault? = some ⟨.noTransition, "😀", -3, some "q\\é\n"⟩ :=
    congrArg Verdict.fault? (List.mem_singleton.mp membership)
  rw [onlyVerdict] at found
  cases found
  have digits : Nat.toDigits 10 3 = ['3'] := Nat.toDigits_of_lt_base (by decide)
  exact (congrArg List.length digits).le.trans (by decide)

theorem readReport_cancelledReport :
    cancelledReport.PositionsFit ∧ Json.IsAscii cancelledReport.toJson.print.toList ∧
      ∃ after, ({} : Tree).writeReport cancelledReport "./r.json" = .ok after ∧
        after.readReport "./r.json" = .ok cancelledReport := by
  have writable : ({} : Tree).IsWritable "./r.json" := ⟨.bytes [], _, rfl⟩
  have ⟨ascii, survives⟩ := isAscii_and_exists_readReport positionsFit_cancelledReport
  obtain ⟨after, written, _, read⟩ := survives {} "./r.json" writable
  exact ⟨positionsFit_cancelledReport, ascii, after, written, read⟩

end Report

end Acceptor
