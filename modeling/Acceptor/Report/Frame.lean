import Acceptor.Report.Basic
import Acceptor.Text.Csv

/-!
Reports as tables: a row for each line, and the text of the table.
-/

namespace Acceptor

inductive Status where
  | accepted
  | rejected
  | error
  | skipped
  deriving DecidableEq, Repr

def Status.name : Status → String
  | .accepted => "accepted"
  | .rejected => "rejected"
  | .error => "error"
  | .skipped => "skipped"

def Status.ofVerdict : Option Verdict → Status
  | none => .skipped
  | some verdict =>
      if verdict.fault?.isSome then .error
      else if verdict.accepted then .accepted
      else .rejected

structure Frame.Row where
  /-- The number of the line, from one on. -/
  line : Nat
  input? : Option String
  status : Status
  accepted? : Option Bool
  final? : Option String
  trace? : Option String
  error? : Option String
  deriving DecidableEq, Repr

inductive Frame.Fault where
  | lengthMismatch
  /-- A verdict that visits no state has no final one. -/
  | emptyTrace
  deriving DecidableEq, Repr

def Frame.Fault.message : Frame.Fault → String
  | .lengthMismatch => "batch and report must have the same number of lines"
  | .emptyTrace => "tuple index out of range"

namespace Frame

def columns : List String :=
  ["line", "input", "status", "accepted", "final_state", "trace", "error"]

def row (line : Nat) (input? : Option String) : Option Verdict → Except Fault Row
  | none =>
      .ok {
        line, input?, status := .skipped
        accepted? := none, final? := none, trace? := none, error? := none }
  | some verdict =>
      match verdict.final? with
      | none => .error .emptyTrace
      | some final =>
          .ok {
            line
            input?
            status := .ofVerdict (some verdict)
            accepted? := some verdict.accepted
            final? := some final
            trace? := some (" ".intercalate verdict.trace)
            error? := verdict.fault?.map RunFault.message }

/-- The rows of lines from a given number on; `inputs` are the lines, none if they are not
known. -/
def rowsFrom (line : Nat) : List (Option String × Option Verdict) → Except Fault (List Row)
  | [] => .ok []
  | (input?, verdict?) :: rest => do
      let first ← row line input? verdict?
      let others ← rowsFrom (line + 1) rest
      return first :: others

/-- The rows of a report, with the input lines of its batch if that is given. -/
def rows (report : Report) (batch? : Option Batch) : Except Fault (List Row) :=
  match batch? with
  | none => rowsFrom 1 (report.verdicts.map (none, ·))
  | some batch =>
      if batch.lines.length = report.verdicts.length then
        rowsFrom 1 ((batch.lines.map some).zip report.verdicts)
      else
        .error .lengthMismatch

def Row.cells (row : Row) : List String :=
  [toString row.line, row.input?.getD "", row.status.name,
    match row.accepted? with
    | none => ""
    | some true => "True"
    | some false => "False",
    row.final?.getD "", row.trace?.getD "", row.error?.getD ""]

def csv (rows : List Row) : String :=
  String.ofList (Text.Csv.table
    ((columns :: rows.map Row.cells).map (List.map String.toList)))

end Frame

end Acceptor
