import Acceptor.Proofs.Json.RoundTrip
import Acceptor.Report.Record

/-!
Reports are read back from the JSON values that they are written as.
-/

namespace Acceptor

theorem mapM_map_of_readsBack {Value Fault : Type} {write : Value → Json}
    {read : Json → Except Fault Value} (readsBack : ∀ value, read (write value) = .ok value)
    (values : List Value) : (values.map write).mapM read = .ok values := by
  induction values with
  | nil => rfl
  | cons value rest inductionHypothesis =>
      rw [List.map_cons, List.mapM_cons, readsBack, inductionHypothesis]
      rfl

theorem Json.asString?_ofString? (text? : Option String) :
    (Json.ofString? text?).asString? = .ok text? := by
  cases text? <;> rfl

theorem RunFault.ofJson_toJson (fault : RunFault) : RunFault.ofJson fault.toJson = .ok fault := by
  have kind : fault.toJson.required "kind" = .ok (.string fault.kind.name) := rfl
  have symbol : fault.toJson.required "symbol" = .ok (.string fault.symbol) := rfl
  have position : fault.toJson.required "position" = .ok (.integer fault.position) := rfl
  have state : fault.toJson.field? "state" = some (.ofString? fault.state?) := rfl
  simp only [RunFault.ofJson, kind, symbol, position, state, Option.getD_some, Json.asString,
    Json.asInt, Json.asString?_ofString?, RunFault.Kind.ofName_name, Except.mapError, bind,
    Except.bind, pure, Except.pure]

theorem Verdict.faultOfJson_toJson (verdict : Verdict) :
    Verdict.faultOfJson verdict.toJson = .ok verdict.fault? := by
  obtain ⟨accepted, trace, fault?⟩ := verdict
  cases fault? with
  | none => rfl
  | some fault => exact congrArg (Except.map some) (RunFault.ofJson_toJson fault)

theorem Verdict.ofJson_toJson (verdict : Verdict) : Verdict.ofJson verdict.toJson = .ok verdict := by
  have accepted : verdict.toJson.required "accepted" = .ok (.boolean verdict.accepted) := rfl
  have trace : verdict.toJson.required "trace" =
      .ok (.array (verdict.trace.map Json.string)) := rfl
  have state : ∀ text, (Json.string text).asString = .ok text := fun _ => rfl
  have states := mapM_map_of_readsBack state verdict.trace
  simp only [Verdict.ofJson, Verdict.faultOfJson_toJson, accepted, trace, states, Json.asBool,
    Json.asArray, bind, Except.bind, pure, Except.pure]

theorem Verdict.ofJson?_toJson? (verdict? : Option Verdict) :
    Verdict.ofJson? (Verdict.toJson? verdict?) = .ok verdict? := by
  cases verdict? with
  | none => rfl
  | some verdict => exact congrArg (Except.map some) (Verdict.ofJson_toJson verdict)

namespace Report

theorem make_eq_ok (report : Report) :
    make report.filename report.verdicts report.cancelled = .ok report := by
  rw [make, dif_pos report.complete_or_cancelled]

theorem ofJson_toJson (report : Report) : ofJson report.toJson = .ok report := by
  have filename : report.toJson.required "filename" = .ok (.string report.filename) := rfl
  have verdicts : report.toJson.required "verdicts" =
      .ok (.array (report.verdicts.map Verdict.toJson?)) := rfl
  have each := mapM_map_of_readsBack Verdict.ofJson?_toJson? report.verdicts
  have cancelled : report.toJson.field? "cancelled" = some (.boolean report.cancelled) := rfl
  simp only [ofJson, filename, verdicts, each, cancelled, Option.getD_some, Json.asString,
    Json.asArray, Json.asBool, make_eq_ok, Except.mapError, bind, Except.bind]

end Report

/-! ## Positions -/

/-- The position of the fault, if there is one, has no more digits than are read. -/
def Verdict.PositionFits (verdict : Verdict) : Prop :=
  ∀ fault, verdict.fault? = some fault → Json.IsShort fault.position

/-- The positions of the faults have no more digits than are read. -/
def Report.PositionsFit (report : Report) : Prop :=
  ∀ verdict ∈ report.given, verdict.PositionFits

theorem Json.fits_ofString? (depth : Nat) (text? : Option String) :
    Fits depth (ofString? text?) := by
  cases text? with
  | none => exact .null
  | some text => exact .string text

theorem RunFault.fits_toJson (depth : Nat) {fault : RunFault}
    (short : Json.IsShort fault.position) : Json.Fits (depth + 1) fault.toJson := by
  apply Json.Fits.object
  simp only [List.forall_mem_cons]
  exact ⟨.string _, .string _, .integer short, Json.fits_ofString? _ _, .string _,
    List.forall_mem_nil _⟩

theorem Verdict.fits_toJson (depth : Nat) {verdict : Verdict} (fits : verdict.PositionFits) :
    Json.Fits (depth + 2) verdict.toJson := by
  have trace : Json.Fits (depth + 1) (.array (verdict.trace.map Json.string)) := by
    apply Json.Fits.array
    intro item membership
    obtain ⟨state, _, rfl⟩ := List.mem_map.mp membership
    exact .string state
  have fault : Json.Fits (depth + 1) ((verdict.fault?.map RunFault.toJson).getD .null) := by
    cases found : verdict.fault? with
    | none => exact .null
    | some fault => exact RunFault.fits_toJson depth (fits fault found)
  apply Json.Fits.object
  simp only [List.forall_mem_cons]
  exact ⟨.boolean _, trace, fault, List.forall_mem_nil _⟩

theorem Report.fits_toJson (depth : Nat) {report : Report} (fits : report.PositionsFit) :
    Json.Fits (depth + 4) report.toJson := by
  have verdicts : Json.Fits (depth + 3) (.array (report.verdicts.map Verdict.toJson?)) := by
    apply Json.Fits.array
    intro item membership
    obtain ⟨verdict?, isVerdict, rfl⟩ := List.mem_map.mp membership
    cases verdict? with
    | none => exact .null
    | some verdict =>
        apply Verdict.fits_toJson
        exact fits verdict (List.mem_filterMap.mpr ⟨_, isVerdict, rfl⟩)
  apply Json.Fits.object
  simp only [List.forall_mem_cons]
  exact ⟨.string _, .boolean _, verdicts, List.forall_mem_nil _⟩

end Acceptor
