import Acceptor.Proofs.Result
import Acceptor.Report.Record
import Mathlib.Data.List.Forall2

/-!
What is wrong with a value that is read as a report.

All problems of a value are listed in the order in which its fields are asked for.  Reading fails
with the first of them, and the list is empty exactly if nothing is missing and every kind is known.
-/

namespace Acceptor

/-! ## The first of some faults -/

/-- The computation fails with the first of the faults, and succeeds if there is none. -/
def FailsFirst {Fault Value : Type} (computation : Except Fault Value) (faults : List Fault) :
    Prop :=
  ∀ fault, computation = .error fault ↔ faults.head? = some fault

section
variable {Fault Value Other Item : Type} {computation : Except Fault Value} {fault : Fault}
  {faults later : List Fault} {next : Value → Except Fault Other}

theorem failsFirst_ok (value : Value) : FailsFirst (.ok value : Except Fault Value) [] := by
  intro fault
  simp

theorem failsFirst_error (fault : Fault) (later : List Fault) :
    FailsFirst (.error fault : Except Fault Value) (fault :: later) := by
  intro other
  simp

theorem FailsFirst.exists_ok_iff (failsFirst : FailsFirst computation faults) :
    (∃ value, computation = .ok value) ↔ faults = [] := by
  cases computation with
  | error fault =>
      apply iff_of_false (by simp)
      intro none
      have head := (failsFirst fault).mp rfl
      rw [none] at head
      contradiction
  | ok value =>
      apply iff_of_true ⟨value, rfl⟩
      cases faults with
      | nil => rfl
      | cons fault rest => exact nomatch (failsFirst fault).mpr rfl

theorem FailsFirst.bind (failsFirst : FailsFirst computation faults)
    (nextFailsFirst : ∀ value, computation = .ok value → FailsFirst (next value) later) :
    FailsFirst (computation >>= next) (faults ++ later) := by
  cases computed : computation with
  | error fault =>
      obtain ⟨rest, rfl⟩ := List.head?_eq_some_iff.mp ((failsFirst fault).mp computed)
      exact failsFirst_error fault _
  | ok value =>
      rw [failsFirst.exists_ok_iff.mp ⟨value, computed⟩]
      exact nextFailsFirst value computed

theorem FailsFirst.map (failsFirst : FailsFirst computation faults) (change : Value → Other) :
    FailsFirst (computation.map change) faults := by
  intro fault
  rw [← failsFirst fault]
  cases computation <;> simp [Except.map]

theorem forall₂_of_mapM {read : Item → Except Fault Value} {items : List Item}
    {values : List Value} (isRead : items.mapM read = .ok values) :
    List.Forall₂ (fun item value => read item = .ok value) items values := by
  induction items generalizing values with
  | nil =>
      cases isRead
      exact .nil
  | cons item rest inductionHypothesis =>
      rw [List.mapM_cons, Except.bind_eq_ok_iff] at isRead
      obtain ⟨value, itemRead, restRead⟩ := isRead
      obtain ⟨others, othersRead, made⟩ := Except.bind_eq_ok_iff.mp restRead
      cases made
      exact .cons itemRead (inductionHypothesis othersRead)

theorem FailsFirst.mapM {read : Item → Except Fault Value} {faults : Item → List Fault}
    {items : List Item} (failsFirst : ∀ item ∈ items, FailsFirst (read item) (faults item)) :
    FailsFirst (items.mapM read) (items.flatMap faults) := by
  induction items with
  | nil => exact failsFirst_ok []
  | cons item rest inductionHypothesis =>
      obtain ⟨first, others⟩ := List.forall_mem_cons.mp failsFirst
      rw [List.mapM_cons, List.flatMap_cons]
      apply first.bind
      intro value _
      rw [← List.append_nil (rest.flatMap faults)]
      apply (inductionHypothesis others).bind
      intro values _
      exact failsFirst_ok _

end

/-! ## Fields -/

namespace Json

def IsRecord (value : Json) : Prop :=
  ∃ fields, value = object fields

def IsString (value : Json) : Prop :=
  ∃ text, value = string text

def IsBoolean (value : Json) : Prop :=
  ∃ truth, value = boolean truth

def IsInteger (value : Json) : Prop :=
  ∃ number, value = integer number

def isNull : Json → Bool
  | null => true
  | _ => false

def IsOptional (isOfKind : Json → Prop) (value : Json) : Prop :=
  value = null ∨ isOfKind value

def IsArrayOf (isOfKind : Json → Prop) (value : Json) : Prop :=
  ∃ items, value = array items ∧ ∀ item ∈ items, isOfKind item

def FieldIs (isOfKind : Json → Prop) (name : String) (value : Json) : Prop :=
  ∀ found, value.field? name = some found → isOfKind found

def missing (name : String) (value : Json) : List RecordFault :=
  match value.field? name with
  | none => [.missing name]
  | some _ => []

variable {value found : Json} {name : String}

theorem isNull_iff : value.isNull = true ↔ value = null := by
  cases value <;> simp [isNull]

theorem missing_eq_nil_iff : value.missing name = [] ↔ (value.field? name).isSome = true := by
  unfold missing
  split
  next absent => simp [absent]
  next found isFound => simp [isFound]

theorem required_eq_ok_iff : value.required name = .ok found ↔ value.field? name = some found := by
  cases value with
  | object fields =>
      rw [required, field?]
      cases lastNamed? name fields <;> simp
  | _ => simp [required, field?]

theorem failsFirst_required (isRecord : value.IsRecord) (name : String) :
    FailsFirst (value.required name) (value.missing name) := by
  obtain ⟨fields, rfl⟩ := isRecord
  unfold required missing field?
  dsimp only
  cases lastNamed? name fields with
  | none => exact failsFirst_error _ _
  | some found => exact failsFirst_ok found

/-- A field is asked for first and read afterwards. -/
theorem FailsFirst.required_bind {Value Other : Type} {read : Json → Except RecordFault Value}
    {next : Value → Except RecordFault Other} {later : List RecordFault}
    (isRecord : value.IsRecord)
    (nextFailsFirst : ∀ found, value.field? name = some found →
      ∃ result, read found = .ok result ∧ FailsFirst (next result) later) :
    FailsFirst (value.required name >>= fun found => read found >>= next)
      (value.missing name ++ later) := by
  apply (failsFirst_required isRecord name).bind
  intro found isFound
  obtain ⟨result, isRead, failsFirst⟩ := nextFailsFirst found (required_eq_ok_iff.mp isFound)
  rw [isRead]
  exact failsFirst

theorem mapM_asString {items : List Json} (areStrings : ∀ item ∈ items, item.IsString) :
    ∃ texts, items.mapM asString = .ok texts := by
  have failsFirst : FailsFirst (items.mapM asString) (items.flatMap fun _ => []) := by
    apply FailsFirst.mapM
    intro item isItem
    obtain ⟨text, rfl⟩ := areStrings item isItem
    exact failsFirst_ok text
  apply failsFirst.exists_ok_iff.mpr
  simp

end Json

/-! ## Faults of runs -/

namespace RunFault

/-- A record whose fields, as far as they are there, can be those of a fault. -/
structure IsTyped (value : Json) : Prop where
  isRecord : value.IsRecord
  kind : value.FieldIs Json.IsString "kind"
  symbol : value.FieldIs Json.IsString "symbol"
  position : value.FieldIs Json.IsInteger "position"
  state : value.FieldIs (Json.IsOptional Json.IsString) "state"

def unknownKind (value : Json) : List RecordFault :=
  match value.field? "kind" with
  | some (.string name) =>
      if name = Kind.unknownSymbol.name ∨ name = Kind.noTransition.name then []
      else [.unknownKind { family := "SimulationErrorKind", text := name }]
  | _ => []

def problems (value : Json) : List RecordFault :=
  value.missing "kind" ++ (unknownKind value ++
    (value.missing "symbol" ++ value.missing "position"))

/-- Nothing is missing, and the kind is known. -/
structure IsComplete (value : Json) : Prop where
  kind : ∃ kind : Kind, value.field? "kind" = some (.string kind.name)
  symbol : (value.field? "symbol").isSome = true
  position : (value.field? "position").isSome = true

variable {value : Json}

theorem unknownKind_of_field? {name : String} (isKind : value.field? "kind" = some (.string name)) :
    unknownKind value =
      if name = Kind.unknownSymbol.name ∨ name = Kind.noTransition.name then []
      else [.unknownKind { family := "SimulationErrorKind", text := name }] := by
  rw [unknownKind, isKind]

theorem exists_kind_iff {name : String} :
    (∃ kind : Kind, name = kind.name) ↔
      name = Kind.unknownSymbol.name ∨ name = Kind.noTransition.name := by
  constructor
  · intro known
    obtain ⟨kind, rfl⟩ := known
    cases kind with
    | unknownSymbol => exact .inl rfl
    | noTransition => exact .inr rfl
  · intro known
    rcases known with same | same
    · exact ⟨.unknownSymbol, same⟩
    · exact ⟨.noTransition, same⟩

theorem failsFirst_ofName (name : String) :
    FailsFirst ((Kind.ofName name).mapError RecordFault.unknownKind)
      (if name = Kind.unknownSymbol.name ∨ name = Kind.noTransition.name then []
        else [.unknownKind { family := "SimulationErrorKind", text := name }]) := by
  split
  next known =>
    rcases known with rfl | rfl
    · exact failsFirst_ok _
    · exact failsFirst_ok _
  next unknown =>
    rw [not_or] at unknown
    have search : Kind.ofName name = .error { family := "SimulationErrorKind", text := name } := by
      simp [Kind.ofName, kindNamed, Ne.symm unknown.1, Ne.symm unknown.2]
    rw [search]
    exact failsFirst_error _ _

theorem failsFirst_ofJson (typed : IsTyped value) :
    FailsFirst (ofJson value) (problems value) := by
  -- Each field that is there has its type, so what can go wrong is that it is missing.
  apply Json.FailsFirst.required_bind typed.isRecord
  intro kind isKind
  obtain ⟨name, rfl⟩ := typed.kind kind isKind
  refine ⟨name, rfl, ?_⟩
  rw [unknownKind_of_field? isKind]
  apply (failsFirst_ofName name).bind
  intro kind _
  apply Json.FailsFirst.required_bind typed.isRecord
  intro symbol isSymbol
  obtain ⟨symbol, rfl⟩ := typed.symbol symbol isSymbol
  refine ⟨symbol, rfl, ?_⟩
  rw [← List.append_nil (value.missing "position")]
  apply Json.FailsFirst.required_bind typed.isRecord
  intro position isPosition
  obtain ⟨position, rfl⟩ := typed.position position isPosition
  refine ⟨position, rfl, ?_⟩
  cases found : value.field? "state" with
  | none => exact failsFirst_ok _
  | some state =>
      rcases typed.state state found with rfl | ⟨text, rfl⟩
      · exact failsFirst_ok _
      · exact failsFirst_ok _

theorem problems_eq_nil_iff (typed : IsTyped value) : problems value = [] ↔ IsComplete value := by
  simp only [problems, List.append_eq_nil_iff, Json.missing_eq_nil_iff]
  constructor
  · intro complete
    obtain ⟨hasKind, known, symbol, position⟩ := complete
    obtain ⟨kind, isKind⟩ := Option.isSome_iff_exists.mp hasKind
    obtain ⟨name, rfl⟩ := typed.kind kind isKind
    rw [unknownKind_of_field? isKind, ite_eq_left_iff] at known
    have isKnown : ∃ kind : Kind, name = kind.name := by
      rw [exists_kind_iff]
      by_contra unknown
      exact nomatch known unknown
    obtain ⟨kind, rfl⟩ := isKnown
    exact ⟨⟨kind, isKind⟩, symbol, position⟩
  · intro complete
    obtain ⟨kind, isKind⟩ := complete.kind
    refine ⟨by rw [isKind]; rfl, ?_, complete.symbol, complete.position⟩
    rw [unknownKind_of_field? isKind, if_pos (exists_kind_iff.mp ⟨kind, rfl⟩)]

end RunFault

/-! ## Verdicts -/

namespace Verdict

/-- A record whose fields, as far as they are there, can be those of a verdict. -/
structure IsTyped (value : Json) : Prop where
  isRecord : value.IsRecord
  error : value.FieldIs (Json.IsOptional RunFault.IsTyped) "error"
  accepted : value.FieldIs Json.IsBoolean "accepted"
  trace : value.FieldIs (Json.IsArrayOf Json.IsString) "trace"

def faultProblems (value : Json) : List RecordFault :=
  match value.field? "error" with
  | none | some .null => []
  | some fault => RunFault.problems fault

/-- The problems of a verdict, those of its fault first; a line that was left out has none. -/
def problems : Json → List RecordFault
  | .null => []
  | value => faultProblems value ++ (value.missing "accepted" ++ value.missing "trace")

/-- Nothing is missing, neither here nor in the fault, if there is one. -/
structure IsComplete (value : Json) : Prop where
  error : ∀ fault, value.field? "error" = some fault → fault ≠ .null → RunFault.IsComplete fault
  accepted : (value.field? "accepted").isSome = true
  trace : (value.field? "trace").isSome = true

variable {value : Json}

theorem failsFirst_faultOfJson (typed : IsTyped value) :
    FailsFirst (faultOfJson value) (faultProblems value) := by
  have error := typed.error
  obtain ⟨fields, rfl⟩ := typed.isRecord
  unfold faultOfJson faultProblems
  unfold Json.FieldIs at error
  simp only [Json.field?] at error ⊢
  cases found : Json.lastNamed? "error" fields with
  | none => exact failsFirst_ok none
  | some fault =>
      rcases error fault found with rfl | faultTyped
      · exact failsFirst_ok none
      · have failsFirst := (RunFault.failsFirst_ofJson faultTyped).map some
        obtain ⟨fields, rfl⟩ := faultTyped.isRecord
        exact failsFirst

theorem problems_of_isTyped (typed : IsTyped value) :
    problems value =
      faultProblems value ++ (value.missing "accepted" ++ value.missing "trace") := by
  obtain ⟨fields, rfl⟩ := typed.isRecord
  rfl

theorem failsFirst_ofJson (typed : IsTyped value) : FailsFirst (ofJson value) (problems value) := by
  rw [problems_of_isTyped typed]
  apply (failsFirst_faultOfJson typed).bind
  intro fault? _
  apply Json.FailsFirst.required_bind typed.isRecord
  intro accepted isAccepted
  obtain ⟨accepted, rfl⟩ := typed.accepted accepted isAccepted
  refine ⟨accepted, rfl, ?_⟩
  rw [← List.append_nil (value.missing "trace")]
  apply Json.FailsFirst.required_bind typed.isRecord
  intro trace isTrace
  obtain ⟨items, rfl, areStrings⟩ := typed.trace trace isTrace
  refine ⟨items, rfl, ?_⟩
  obtain ⟨trace, isRead⟩ := Json.mapM_asString areStrings
  rw [isRead]
  exact failsFirst_ok _

theorem faultProblems_eq_nil_iff (typed : IsTyped value) :
    faultProblems value = [] ↔
      ∀ fault, value.field? "error" = some fault → fault ≠ .null → RunFault.IsComplete fault := by
  unfold faultProblems
  split
  next absent => simp [absent]
  next isNull => simp [isNull]
  next fault notNull found =>
    rcases typed.error fault found with rfl | faultTyped
    · exact absurd rfl notNull
    · rw [RunFault.problems_eq_nil_iff faultTyped, found]
      constructor
      · intro complete other same _
        rw [← Option.some.inj same]
        exact complete
      · intro complete
        exact complete fault rfl notNull

theorem problems_eq_nil_iff (typed : IsTyped value) : problems value = [] ↔ IsComplete value := by
  simp only [problems_of_isTyped typed, List.append_eq_nil_iff, faultProblems_eq_nil_iff typed,
    Json.missing_eq_nil_iff]
  constructor
  · intro complete
    obtain ⟨error, accepted, trace⟩ := complete
    exact ⟨error, accepted, trace⟩
  · intro complete
    exact ⟨complete.error, complete.accepted, complete.trace⟩

theorem failsFirst_ofJson? (typed : Json.IsOptional IsTyped value) :
    FailsFirst (ofJson? value) (problems value) := by
  rcases typed with rfl | typed
  · exact failsFirst_ok none
  · have failsFirst := (failsFirst_ofJson typed).map some
    obtain ⟨fields, rfl⟩ := typed.isRecord
    exact failsFirst

theorem problems_eq_nil_iff_of_isOptional (typed : Json.IsOptional IsTyped value) :
    problems value = [] ↔ (value ≠ .null → IsComplete value) := by
  rcases typed with rfl | typed
  · simp [problems]
  · have notNull : value ≠ .null := by
      obtain ⟨fields, rfl⟩ := typed.isRecord
      exact nofun
    rw [problems_eq_nil_iff typed, imp_iff_right notNull]

end Verdict

/-! ## Reports -/

namespace Report

/-- A record whose fields, as far as they are there, can be those of a report. -/
structure IsTyped (value : Json) : Prop where
  isRecord : value.IsRecord
  filename : value.FieldIs Json.IsString "filename"
  verdicts : value.FieldIs (Json.IsArrayOf (Json.IsOptional Verdict.IsTyped)) "verdicts"
  cancelled : value.FieldIs Json.IsBoolean "cancelled"

def saysCancelled (value : Json) : Bool :=
  match value.field? "cancelled" with
  | some (.boolean cancelled) => cancelled
  | _ => false

/-- The problem of lines that were left out though the report is not cancelled. -/
def skippedProblem (items : List Json) (value : Json) : List RecordFault :=
  if saysCancelled value = false ∧ items.any Json.isNull = true then [.report .skippedLine] else []

/-- The problems of the verdicts, one verdict after another, and of those that were left out. -/
def verdictProblems (value : Json) : List RecordFault :=
  match value.field? "verdicts" with
  | some (.array items) => items.flatMap Verdict.problems ++ skippedProblem items value
  | _ => []

def problems (value : Json) : List RecordFault :=
  value.missing "filename" ++ (value.missing "verdicts" ++ verdictProblems value)

/-- Nothing is missing, neither here nor in the verdicts, and verdicts are left out only if the
report is cancelled. -/
structure IsComplete (value : Json) : Prop where
  filename : (value.field? "filename").isSome = true
  verdicts : ∃ items, value.field? "verdicts" = some (.array items) ∧
    (∀ item ∈ items, item ≠ .null → Verdict.IsComplete item) ∧
    (value.field? "cancelled" = some (.boolean true) ∨ .null ∉ items)

variable {value : Json} {items : List Json}

theorem failsFirst_verdicts (typed : ∀ item ∈ items, Json.IsOptional Verdict.IsTyped item) :
    FailsFirst (items.mapM Verdict.ofJson?) (items.flatMap Verdict.problems) := by
  apply FailsFirst.mapM
  intro item isItem
  exact Verdict.failsFirst_ofJson? (typed item isItem)

theorem isNull_eq_not_isSome {item : Json} {verdict? : Option Verdict}
    (isRead : Verdict.ofJson? item = .ok verdict?) : item.isNull = !verdict?.isSome := by
  unfold Verdict.ofJson? at isRead
  split at isRead
  · cases isRead
    rfl
  next notNull =>
    obtain ⟨verdict, _, rfl⟩ := Except.map_eq_ok_iff.mp isRead
    rw [Bool.eq_false_iff.mpr (mt Json.isNull_iff.mp notNull)]
    rfl

/-- A verdict is left out exactly if it is read from null. -/
theorem any_isNull_eq {verdicts : List (Option Verdict)}
    (areRead : List.Forall₂ (fun item verdict? => Verdict.ofJson? item = .ok verdict?)
      items verdicts) :
    items.any Json.isNull = !verdicts.all Option.isSome := by
  induction areRead with
  | nil => rfl
  | cons itemRead _ inductionHypothesis =>
      rw [List.any_cons, List.all_cons, Bool.not_and, isNull_eq_not_isSome itemRead,
        inductionHypothesis]

theorem saysCancelled_iff : saysCancelled value = true ↔
    value.field? "cancelled" = some (.boolean true) := by
  unfold saysCancelled
  split
  next cancelled found => simp [found]
  next other =>
    apply iff_of_false Bool.false_ne_true
    exact other true

theorem getD_cancelled (typed : IsTyped value) :
    (value.field? "cancelled").getD (.boolean false) = .boolean (saysCancelled value) := by
  unfold saysCancelled
  cases found : value.field? "cancelled" with
  | none => rfl
  | some other =>
      obtain ⟨cancelled, rfl⟩ := typed.cancelled other found
      rfl

theorem failsFirst_make {filename : String} {verdicts : List (Option Verdict)}
    (typed : IsTyped value) (isRead : items.mapM Verdict.ofJson? = .ok verdicts) :
    FailsFirst (((value.field? "cancelled").getD (.boolean false)).asBool >>= fun cancelled =>
        (make filename verdicts cancelled).mapError RecordFault.report)
      (skippedProblem items value) := by
  rw [getD_cancelled typed, skippedProblem, any_isNull_eq (forall₂_of_mapM isRead)]
  change FailsFirst ((make filename verdicts (saysCancelled value)).mapError _) _
  unfold make
  split
  next fits =>
    rw [if_neg]
    · exact failsFirst_ok _
    · rintro ⟨notCancelled, skipped⟩
      rw [notCancelled, Bool.or_false] at fits
      rw [fits] at skipped
      contradiction
  next unfit =>
    rw [Bool.not_eq_true, Bool.or_eq_false_iff] at unfit
    rw [if_pos ⟨unfit.2, by rw [unfit.1]; rfl⟩]
    exact failsFirst_error _ []

theorem failsFirst_ofJson (typed : IsTyped value) : FailsFirst (ofJson value) (problems value) := by
  apply Json.FailsFirst.required_bind typed.isRecord
  intro filename isFilename
  obtain ⟨filename, rfl⟩ := typed.filename filename isFilename
  refine ⟨filename, rfl, ?_⟩
  apply Json.FailsFirst.required_bind typed.isRecord
  intro verdicts isVerdicts
  obtain ⟨items, rfl, eachTyped⟩ := typed.verdicts verdicts isVerdicts
  refine ⟨items, rfl, ?_⟩
  rw [verdictProblems, isVerdicts]
  apply (failsFirst_verdicts eachTyped).bind
  intro verdicts isRead
  exact failsFirst_make typed isRead

theorem skippedProblem_eq_nil_iff :
    skippedProblem items value = [] ↔
      value.field? "cancelled" = some (.boolean true) ∨ .null ∉ items := by
  have left : items.any Json.isNull = true ↔ .null ∈ items := by
    simp [List.any_eq_true, Json.isNull_iff]
  rw [skippedProblem, ite_eq_right_iff, left, ← saysCancelled_iff]
  cases saysCancelled value <;> simp

theorem flatMap_problems_eq_nil_iff
    (eachTyped : ∀ item ∈ items, Json.IsOptional Verdict.IsTyped item) :
    items.flatMap Verdict.problems = [] ↔
      ∀ item ∈ items, item ≠ .null → Verdict.IsComplete item := by
  rw [List.flatMap_eq_nil_iff]
  apply forall₂_congr
  intro item isItem
  exact Verdict.problems_eq_nil_iff_of_isOptional (eachTyped item isItem)

theorem problems_eq_nil_iff (typed : IsTyped value) : problems value = [] ↔ IsComplete value := by
  simp only [problems, verdictProblems, List.append_eq_nil_iff, Json.missing_eq_nil_iff]
  constructor
  · intro complete
    obtain ⟨filename, hasVerdicts, complete⟩ := complete
    obtain ⟨verdicts, isVerdicts⟩ := Option.isSome_iff_exists.mp hasVerdicts
    obtain ⟨items, rfl, eachTyped⟩ := typed.verdicts verdicts isVerdicts
    simp only [isVerdicts, List.append_eq_nil_iff, skippedProblem_eq_nil_iff,
      flatMap_problems_eq_nil_iff eachTyped] at complete
    exact ⟨filename, items, isVerdicts, complete⟩
  · intro complete
    obtain ⟨items, isVerdicts, eachComplete, cancelledOrGiven⟩ := complete.verdicts
    obtain ⟨_, same, eachTyped⟩ := typed.verdicts _ isVerdicts
    cases same
    simp only [isVerdicts, List.append_eq_nil_iff, skippedProblem_eq_nil_iff,
      flatMap_problems_eq_nil_iff eachTyped]
    exact ⟨complete.filename, rfl, eachComplete, cancelledOrGiven⟩

end Report

end Acceptor
