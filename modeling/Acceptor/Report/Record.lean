import Acceptor.Json.Basic
import Acceptor.Report.Basic

/-!
Reports as JSON values.

`Report.toJson` writes a report.  `Report.ofJson` accepts what it writes and more: fields
that it does not know are passed over, `cancelled`, `error` and `state` may be missing, and
the message of an error is not read but made anew.
-/

namespace Acceptor

inductive RecordFault where
  | missing (field : String)
  | unknownKind (kind : UnknownKind)
  | report (fault : Report.Fault)
  /-- A value of another type than the field has. -/
  | illTyped
  deriving DecidableEq, Repr

def RecordFault.message : RecordFault → String
  | .missing field => Text.quote field
  | .unknownKind kind => kind.message
  | .report fault => fault.message
  | .illTyped => "value of another type expected"

namespace Json

def required (name : String) (value : Json) : Except RecordFault Json :=
  match value with
  | object fields =>
      match lastNamed? name fields with
      | some found => .ok found
      | none => .error (.missing name)
  | _ => .error .illTyped

def asString : Json → Except RecordFault String
  | string value => .ok value
  | _ => .error .illTyped

def asString? : Json → Except RecordFault (Option String)
  | null => .ok none
  | string value => .ok (some value)
  | _ => .error .illTyped

def asBool : Json → Except RecordFault Bool
  | boolean value => .ok value
  | _ => .error .illTyped

def asInt : Json → Except RecordFault Int
  | integer value => .ok value
  | _ => .error .illTyped

def asArray : Json → Except RecordFault (List Json)
  | array items => .ok items
  | _ => .error .illTyped

def ofString? : Option String → Json
  | none => null
  | some text => string text

end Json

def RunFault.toJson (fault : RunFault) : Json :=
  .object [
    ("kind", .string fault.kind.name),
    ("symbol", .string fault.symbol),
    ("position", .integer fault.position),
    ("state", .ofString? fault.state?),
    ("message", .string fault.message)]

def RunFault.ofJson (value : Json) : Except RecordFault RunFault := do
  let name ← (← value.required "kind").asString
  let kind ← (Kind.ofName name).mapError RecordFault.unknownKind
  let symbol ← (← value.required "symbol").asString
  let position ← (← value.required "position").asInt
  let state? ← ((value.field? "state").getD .null).asString?
  return { kind, symbol, position, state? }

def Verdict.toJson (verdict : Verdict) : Json :=
  .object [
    ("accepted", .boolean verdict.accepted),
    ("trace", .array (verdict.trace.map Json.string)),
    ("error", (verdict.fault?.map RunFault.toJson).getD .null)]

def Verdict.faultOfJson (value : Json) : Except RecordFault (Option RunFault) :=
  match value with
  | .object fields =>
      match Json.lastNamed? "error" fields with
      | none => .ok none
      | some .null => .ok none
      | some fault => (RunFault.ofJson fault).map some
  | _ => .error .illTyped

/-- Reads a verdict; its fault comes first. -/
def Verdict.ofJson (value : Json) : Except RecordFault Verdict := do
  let fault? ← Verdict.faultOfJson value
  let accepted ← (← value.required "accepted").asBool
  let trace ← (← (← value.required "trace").asArray).mapM Json.asString
  return { accepted, trace, fault? }

def Verdict.toJson? : Option Verdict → Json
  | none => .null
  | some verdict => verdict.toJson

def Verdict.ofJson? : Json → Except RecordFault (Option Verdict)
  | .null => .ok none
  | value => (Verdict.ofJson value).map some

namespace Report

def toJson (report : Report) : Json :=
  .object [
    ("filename", .string report.filename),
    ("cancelled", .boolean report.cancelled),
    ("verdicts", .array (report.verdicts.map Verdict.toJson?))]

/-- Reads a report: its file name, then its verdicts in order, then whether it is
cancelled. -/
def ofJson (value : Json) : Except RecordFault Report := do
  let filename ← (← value.required "filename").asString
  let verdicts ← (← (← value.required "verdicts").asArray).mapM Verdict.ofJson?
  let cancelled ← ((value.field? "cancelled").getD (.boolean false)).asBool
  (Report.make filename verdicts cancelled).mapError RecordFault.report

end Report

end Acceptor
