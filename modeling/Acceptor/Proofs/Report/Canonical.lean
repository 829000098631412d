import Acceptor.Proofs.Automaton.Stops
import Acceptor.Proofs.Report.Problems
import Acceptor.Proofs.Report.Record

/-!
What is written of a report that was read.

The canonical form of a record has the fields that are read and no others.  A field that may be
missing is written out, and the message of a fault is made anew from its other fields.
-/

namespace Acceptor

/-! ## Values of one kind -/

namespace Json

variable {value : Json}

theorem asString_eq_ok_iff {text : String} : value.asString = .ok text ↔ value = string text := by
  cases value <;> simp [asString]

theorem asString?_eq_ok_iff {text? : Option String} :
    value.asString? = .ok text? ↔ value = ofString? text? := by
  cases text? <;> cases value <;> simp [asString?, ofString?]

theorem asBool_eq_ok_iff {truth : Bool} : value.asBool = .ok truth ↔ value = boolean truth := by
  cases value <;> simp [asBool]

theorem asInt_eq_ok_iff {number : Int} : value.asInt = .ok number ↔ value = integer number := by
  cases value <;> simp [asInt]

theorem asArray_eq_ok_iff {items : List Json} :
    value.asArray = .ok items ↔ value = array items := by
  cases value <;> simp [asArray]

end Json

/-! ## Faults of runs -/

namespace RunFault

/-- The fields of the record are those of the fault. -/
structure IsRecordOf (fault : RunFault) (value : Json) : Prop where
  kind : value.field? "kind" = some (.string fault.kind.name)
  symbol : value.field? "symbol" = some (.string fault.symbol)
  position : value.field? "position" = some (.integer fault.position)
  state : (value.field? "state").getD .null = .ofString? fault.state?

/-- The canonical form has the state, if only as null, and a message that is made of the other
fields. -/
inductive IsCanonical (value : Json) : Json → Prop where
  | intro {fault : RunFault} {message : String} (isRecord : fault.IsRecordOf value)
      (told : fault.IsToldBy message) :
      IsCanonical value (.object [
        ("kind", .string fault.kind.name),
        ("symbol", .string fault.symbol),
        ("position", .integer fault.position),
        ("state", .ofString? fault.state?),
        ("message", .string message)])

variable {value canonical : Json} {fault : RunFault}

theorem ofName_eq_ok_iff {name : String} {kind : Kind} :
    Kind.ofName name = .ok kind ↔ name = kind.name := by
  constructor
  · intro named
    exact (name_of_kindNamed named).symm
  · rintro rfl
    exact kind.ofName_name

theorem ofJson_eq_ok_iff : ofJson value = .ok fault ↔ fault.IsRecordOf value := by
  simp only [ofJson, Except.bind_eq_ok_iff, Json.required_eq_ok_iff, Except.mapError_eq_ok_iff,
    Json.asString_eq_ok_iff, Json.asInt_eq_ok_iff, Json.asString?_eq_ok_iff, ofName_eq_ok_iff]
  constructor
  · rintro ⟨_, kind, _, rfl, _, rfl, _, symbol, _, rfl, _, position, _, rfl, _, state, ⟨⟩⟩
    exact ⟨kind, symbol, position, state⟩
  · intro isRecord
    exact ⟨_, isRecord.kind, _, rfl, _, rfl, _, isRecord.symbol, _, rfl, _, isRecord.position, _,
      rfl, _, isRecord.state, rfl⟩

theorem isCanonical_iff (isRead : ofJson value = .ok fault) :
    IsCanonical value canonical ↔ canonical = fault.toJson := by
  constructor
  · rintro ⟨isRecord, told⟩
    cases isRead.symm.trans (ofJson_eq_ok_iff.mpr isRecord)
    cases isToldBy_iff.mp told
    rfl
  · rintro rfl
    exact .intro (ofJson_eq_ok_iff.mp isRead) (isToldBy_iff.mpr rfl)

end RunFault

/-! ## Verdicts -/

namespace Verdict

/-- The canonical form has the fault in its canonical form, and null if there is none. -/
inductive IsCanonicalError (value : Json) : Json → Prop where
  | none (isNull : (value.field? "error").getD .null = .null) : IsCanonicalError value .null
  | some {error canonical : Json} (isError : value.field? "error" = some error)
      (isCanonical : RunFault.IsCanonical error canonical) : IsCanonicalError value canonical

inductive IsCanonical : Json → Json → Prop where
  | skipped : IsCanonical .null .null
  | given {value accepted trace error : Json}
      (isAccepted : value.field? "accepted" = some accepted)
      (isTrace : value.field? "trace" = some trace)
      (isCanonicalError : IsCanonicalError value error) :
      IsCanonical value (.object [("accepted", accepted), ("trace", trace), ("error", error)])

variable {value canonical : Json} {verdict : Verdict} {fault? : Option RunFault}

theorem error_of_faultOfJson (isRead : faultOfJson value = .ok fault?) :
    fault? = none ∧ (value.field? "error").getD .null = .null ∨
      ∃ error fault, value.field? "error" = some error ∧ RunFault.ofJson error = .ok fault ∧
        fault? = some fault := by
  cases value with
  | object fields =>
      simp only [faultOfJson, Json.field?] at isRead ⊢
      split at isRead
      next absent =>
        cases isRead
        exact .inl ⟨rfl, by rw [absent]; rfl⟩
      next isNull =>
        cases isRead
        exact .inl ⟨rfl, by rw [isNull]; rfl⟩
      next error _ isError =>
        obtain ⟨fault, errorRead, rfl⟩ := Except.map_eq_ok_iff.mp isRead
        exact .inr ⟨error, fault, isError, errorRead, rfl⟩
  | _ => contradiction

theorem isCanonicalError_iff (isRead : faultOfJson value = .ok fault?) :
    IsCanonicalError value canonical ↔ canonical = (fault?.map RunFault.toJson).getD .null := by
  rcases error_of_faultOfJson isRead with ⟨rfl, isNull⟩ | ⟨error, fault, isError, errorRead, rfl⟩
  · constructor
    · intro isCanonical
      cases isCanonical with
      | none => rfl
      | some isError isCanonical =>
          rw [isError] at isNull
          cases isNull
          obtain ⟨isRecord, _⟩ := isCanonical
          exact nomatch isRecord.kind
    · rintro rfl
      exact .none isNull
  · constructor
    · intro isCanonical
      cases isCanonical with
      | none isNull =>
          rw [isError] at isNull
          cases isNull
          contradiction
      | some otherError isCanonical =>
          cases isError.symm.trans otherError
          exact (RunFault.isCanonical_iff errorRead).mp isCanonical
    · rintro rfl
      exact .some isError ((RunFault.isCanonical_iff errorRead).mpr rfl)

theorem eq_map_string_of_mapM {items : List Json} {trace : List String}
    (isRead : items.mapM Json.asString = .ok trace) : items = trace.map Json.string := by
  have areRead := forall₂_of_mapM isRead
  simp only [Json.asString_eq_ok_iff] at areRead
  rw [← List.forall₂_map_right_iff, List.forall₂_eq_eq_eq] at areRead
  exact areRead

theorem fields_of_ofJson (isRead : ofJson value = .ok verdict) :
    faultOfJson value = .ok verdict.fault? ∧
      value.field? "accepted" = some (.boolean verdict.accepted) ∧
      value.field? "trace" = some (.array (verdict.trace.map Json.string)) := by
  simp only [ofJson, Except.bind_eq_ok_iff, Json.required_eq_ok_iff, Json.asBool_eq_ok_iff,
    Json.asArray_eq_ok_iff] at isRead
  obtain ⟨_, fault, _, accepted, _, rfl, _, trace, items, rfl, _, isTrace, ⟨⟩⟩ := isRead
  cases eq_map_string_of_mapM isTrace
  exact ⟨fault, accepted, trace⟩

theorem isCanonical_iff {item : Json} {verdict? : Option Verdict}
    (isRead : ofJson? item = .ok verdict?) :
    IsCanonical item canonical ↔ canonical = toJson? verdict? := by
  unfold ofJson? at isRead
  split at isRead
  · cases isRead
    constructor
    · intro isCanonical
      cases isCanonical with
      | skipped => rfl
      | given isAccepted => contradiction
    · rintro rfl
      exact .skipped
  next notNull =>
    obtain ⟨verdict, verdictRead, rfl⟩ := Except.map_eq_ok_iff.mp isRead
    obtain ⟨faultRead, isAccepted, isTrace⟩ := fields_of_ofJson verdictRead
    constructor
    · intro isCanonical
      cases isCanonical with
      | skipped => exact absurd rfl notNull
      | given otherAccepted otherTrace isCanonicalError =>
          cases isAccepted.symm.trans otherAccepted
          cases isTrace.symm.trans otherTrace
          cases (isCanonicalError_iff faultRead).mp isCanonicalError
          rfl
    · rintro rfl
      exact .given isAccepted isTrace ((isCanonicalError_iff faultRead).mpr rfl)

end Verdict

/-! ## Reports -/

namespace Report

/-- The canonical form says whether the report is cancelled, and has the verdicts in their
canonical form. -/
inductive IsCanonical (value : Json) : Json → Prop where
  | intro {filename : Json} {items canonicals : List Json}
      (isFilename : value.field? "filename" = some filename)
      (isVerdicts : value.field? "verdicts" = some (.array items))
      (areCanonical : List.Forall₂ Verdict.IsCanonical items canonicals) :
      IsCanonical value (.object [
        ("filename", filename),
        ("cancelled", (value.field? "cancelled").getD (.boolean false)),
        ("verdicts", .array canonicals)])

variable {value canonical : Json} {report : Report}

theorem fields_of_ofJson (isRead : ofJson value = .ok report) :
    value.field? "filename" = some (.string report.filename) ∧
      (value.field? "cancelled").getD (.boolean false) = .boolean report.cancelled ∧
      ∃ items, value.field? "verdicts" = some (.array items) ∧
        items.mapM Verdict.ofJson? = .ok report.verdicts := by
  simp only [ofJson, Except.bind_eq_ok_iff, Json.required_eq_ok_iff, Json.asString_eq_ok_iff,
    Json.asArray_eq_ok_iff, Json.asBool_eq_ok_iff, Except.mapError_eq_ok_iff] at isRead
  obtain ⟨_, filename, _, rfl, _, isVerdicts, _, rfl, _, verdictsRead, _, isCancelled, made⟩ :=
    isRead
  unfold make at made
  split at made
  · cases made
    exact ⟨filename, isCancelled, _, isVerdicts, verdictsRead⟩
  · contradiction

theorem forall₂_isCanonical_iff {items canonicals : List Json} {verdicts : List (Option Verdict)}
    (areRead : List.Forall₂ (fun item verdict? => Verdict.ofJson? item = .ok verdict?)
      items verdicts) :
    List.Forall₂ Verdict.IsCanonical items canonicals ↔
      canonicals = verdicts.map Verdict.toJson? := by
  induction areRead generalizing canonicals with
  | nil => simp
  | cons itemRead _ inductionHypothesis =>
      rw [List.forall₂_cons_left_iff, List.map_cons]
      simp only [Verdict.isCanonical_iff itemRead, inductionHypothesis]
      constructor
      · rintro ⟨_, _, rfl, rfl, rfl⟩
        rfl
      · rintro rfl
        exact ⟨_, _, rfl, rfl, rfl⟩

theorem isCanonical_iff (isRead : ofJson value = .ok report) :
    IsCanonical value canonical ↔ canonical = report.toJson := by
  obtain ⟨isFilename, isCancelled, items, isVerdicts, verdictsRead⟩ := fields_of_ofJson isRead
  constructor
  · rintro ⟨otherFilename, otherVerdicts, areCanonical⟩
    cases isFilename.symm.trans otherFilename
    cases isVerdicts.symm.trans otherVerdicts
    rw [isCancelled, (forall₂_isCanonical_iff (forall₂_of_mapM verdictsRead)).mp areCanonical]
    rfl
  · rintro rfl
    rw [toJson, ← isCancelled]
    apply IsCanonical.intro isFilename isVerdicts
    exact (forall₂_isCanonical_iff (forall₂_of_mapM verdictsRead)).mpr rfl

/-- What reading a value as a report comes to. -/
structure ReadsCanonically (value : Json) : Prop where
  succeeds_iff : (∃ report, ofJson value = .ok report) ↔ IsComplete value
  fails_iff : ∀ fault, ofJson value = .error fault ↔ (problems value).head? = some fault
  writes_iff : ∀ report canonical, ofJson value = .ok report →
    (IsCanonical value canonical ↔ canonical = report.toJson)
  reads_back : ∀ report, ofJson value = .ok report →
    ofJson report.toJson = .ok report ∧ IsCanonical report.toJson report.toJson

theorem readsCanonically_of_isTyped (typed : IsTyped value) : ReadsCanonically value where
  succeeds_iff := (failsFirst_ofJson typed).exists_ok_iff.trans (problems_eq_nil_iff typed)
  fails_iff := failsFirst_ofJson typed
  writes_iff := by
    intro report canonical isRead
    exact isCanonical_iff isRead
  reads_back := by
    intro report _
    have readAgain := report.ofJson_toJson
    exact ⟨readAgain, (isCanonical_iff readAgain).mpr rfl⟩

/-- A record of a fault with a message of its own and without a state. -/
def looseFault : Json :=
  .object [
    ("message", .string "stopped"),
    ("position", .integer 2),
    ("kind", .string "unknown_symbol"),
    ("symbol", .string "é")]

/-- A record with a field that no report has, and without the field `cancelled`. -/
def looseRecord : Json :=
  .object [
    ("verdicts", .array [
      .object [
        ("error", looseFault),
        ("trace", .array [.string "q"]),
        ("accepted", .boolean false)],
      .object [("accepted", .boolean true), ("trace", .array [])]]),
    ("note", .integer 7),
    ("filename", .string "in.txt")]

theorem isTyped_looseFault : RunFault.IsTyped looseFault where
  isRecord := ⟨_, rfl⟩
  kind := by
    rintro _ ⟨⟩
    exact ⟨_, rfl⟩
  symbol := by
    rintro _ ⟨⟩
    exact ⟨_, rfl⟩
  position := by
    rintro _ ⟨⟩
    exact ⟨_, rfl⟩
  state := nofun

theorem isTyped_looseRecord : IsTyped looseRecord where
  isRecord := ⟨_, rfl⟩
  filename := by
    rintro _ ⟨⟩
    exact ⟨_, rfl⟩
  verdicts := by
    rintro _ ⟨⟩
    refine ⟨_, rfl, ?_⟩
    rw [List.forall_mem_cons, List.forall_mem_singleton]
    constructor
    · right
      refine ⟨⟨_, rfl⟩, ?_, ?_, ?_⟩
      · rintro _ ⟨⟩
        exact .inr isTyped_looseFault
      · rintro _ ⟨⟩
        exact ⟨_, rfl⟩
      · rintro _ ⟨⟩
        exact ⟨_, rfl, List.forall_mem_singleton.mpr ⟨_, rfl⟩⟩
    · right
      refine ⟨⟨_, rfl⟩, nofun, ?_, ?_⟩
      · rintro _ ⟨⟩
        exact ⟨_, rfl⟩
      · rintro _ ⟨⟩
        exact ⟨_, rfl, List.forall_mem_nil _⟩
  cancelled := nofun

theorem readsCanonically_looseRecord :
    IsTyped looseRecord ∧ ∃ report, ofJson looseRecord = .ok report ∧
      (∀ canonical, IsCanonical looseRecord canonical ↔ canonical = .object [
        ("filename", .string "in.txt"),
        ("cancelled", .boolean false),
        ("verdicts", .array [
          .object [
            ("accepted", .boolean false),
            ("trace", .array [.string "q"]),
            ("error", .object [
              ("kind", .string "unknown_symbol"),
              ("symbol", .string "é"),
              ("position", .integer 2),
              ("state", .null),
              ("message", .string "symbol 'é' at position 2 is not in the alphabet")])],
          .object [
            ("accepted", .boolean true),
            ("trace", .array []),
            ("error", .null)]])]) ∧
      ofJson report.toJson = .ok report ∧ IsCanonical report.toJson report.toJson := by
  have reads := readsCanonically_of_isTyped isTyped_looseRecord
  have isRead : ofJson looseRecord = .ok {
      filename := "in.txt"
      verdicts := [
        some {
          accepted := false
          trace := ["q"]
          fault? := some { kind := .unknownSymbol, symbol := "é", position := 2 } },
        some { accepted := true, trace := [] }]
      complete_or_cancelled := by decide } := rfl
  have words : (RunFault.mk .unknownSymbol "é" 2 none).message =
      "symbol 'é' at position 2 is not in the alphabet" := by decide +kernel
  refine ⟨isTyped_looseRecord, _, isRead, ?_, reads.reads_back _ isRead⟩
  intro canonical
  rw [reads.writes_iff _ _ isRead, ← words]
  rfl

end Report

end Acceptor
