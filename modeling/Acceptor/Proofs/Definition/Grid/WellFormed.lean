import Acceptor.Proofs.Definition.Grid.Reader
import Acceptor.Proofs.Validation.Judgement

/-!
Drafts that are read from tables.

The first line of a table declares the symbols of all its rules, and a row declares the state that
its rules are from, so little is left that such a draft can be refused for: that there are no rows,
that none of them is marked as start, that there is no row for a target, and that rules are missing.
-/

namespace Acceptor.Grid

variable {draft extended : Draft} {line : Line} {lines : List Line} {row : Row} {number : Nat}
  {alphabet : List String}

/-! ## Rows -/

theorem Row.of_mem_rules {rule : Rule} (membership : rule ∈ row.rules alphabet number) :
    rule.source = row.state ∧ rule.symbol ∈ alphabet ∧ rule.target ≠ "" := by
  obtain ⟨⟨symbol, target⟩, paired, found⟩ := List.mem_filterMap.mp membership
  by_cases empty : target = ""
  · simp [empty] at found
  · simp only [if_neg empty, Option.some.injEq] at found
    subst found
    exact ⟨rfl, (List.of_mem_zip paired).1, empty⟩

/-- The rules of a row are about its state and about symbols in the order of the alphabet. -/
theorem Row.keys_rules_sublist (alphabet : List String) (number : Nat) (row : Row) :
    ((row.rules alphabet number).map Rule.key).Sublist (alphabet.map (row.state, ·)) := by
  unfold Row.rules
  generalize row.targets = targets
  induction alphabet generalizing targets with
  | nil => exact .slnil
  | cons symbol rest inductionHypothesis =>
      cases targets with
      | nil => exact List.nil_sublist _
      | cons target others =>
          rw [List.zip_cons_cons, List.filterMap_cons]
          by_cases empty : target = ""
          · simpa [empty] using (inductionHypothesis others).cons (row.state, symbol)
          · simpa [empty, Rule.key] using (inductionHypothesis others).cons_cons (row.state, symbol)

def MarksStart (text : List Char) : Prop :=
  ∃ marker ∈ (Text.fields text).head?, marker = ['-'] ∨ marker = ['-', '+'] ∨ marker = ['+', '-']

theorem start_of_readMark {marker : List Char} {mark : Mark} (marked : readMark marker = .ok mark) :
    mark.start = true ↔ marker = ['-'] ∨ marker = ['-', '+'] ∨ marker = ['+', '-'] := by
  unfold readMark at marked
  split_ifs at marked with both start accepting <;> cases marked
  · simp [both]
  · simp [start]
  · simp [accepting]
  · simp [start, not_or.mp both]

theorem start_iff_marksStart {width : Nat} {text : List Char}
    (read : readRow width text = .ok row) : row.mark.start = true ↔ MarksStart text := by
  obtain ⟨marker, state, targets, shape, _, marked, _⟩ := exists_fields_of_readRow read
  rw [start_of_readMark marked, MarksStart, shape]
  simp

theorem start?_eq_none_iff_of_addLine (added : addLine draft line = .ok extended) :
    extended.start? = none ↔ draft.start? = none ∧ ¬ MarksStart line.text := by
  obtain ⟨row, read, _, rfl⟩ := addLine_eq_ok_iff.mp added
  rw [← start_iff_marksStart read]
  by_cases marked : row.mark.start = true <;> simp [Row.extend, marked]

/-- A start is missing if no row is marked as one. -/
theorem start?_eq_none_iff_of_addLines
    (added : Draft.addLines addLine draft lines = .ok extended) :
    extended.start? = none ↔
      draft.start? = none ∧ ∀ line ∈ lines, ¬ MarksStart line.text := by
  induction lines generalizing draft with
  | nil =>
      cases added
      simp
  | cons line rest inductionHypothesis =>
      obtain ⟨middle, addedLine, addedRest⟩ := Draft.addLines_cons_eq_ok_iff.mp added
      rw [inductionHypothesis addedRest, start?_eq_none_iff_of_addLine addedLine,
        List.forall_mem_cons, and_assoc]

/-! ## Drafts -/

structure WellFormed (draft : Draft) : Prop where
  alphabet_ne_nil : draft.alphabet ≠ []
  alphabet_nodup : draft.alphabet.Nodup
  symbol_length : ∀ symbol ∈ draft.alphabet, symbol.length = 1
  states_nodup : draft.states.Nodup
  state_ne_empty : ∀ state ∈ draft.states, state ≠ ""
  start_mem : ∀ state, draft.start? = some state → state ∈ draft.states
  accepting_sublist : draft.accepting.Sublist draft.states
  accepting_nodup : draft.accepting.Nodup
  source_mem : ∀ rule ∈ draft.rules, rule.source ∈ draft.states
  symbol_mem : ∀ rule ∈ draft.rules, rule.symbol ∈ draft.alphabet
  target_ne_empty : ∀ rule ∈ draft.rules, rule.target ≠ ""
  keys_nodup : (draft.rules.map Rule.key).Nodup

theorem wellFormed_of_readHeader {text : List Char} (accepted : readHeader text = .ok alphabet) :
    WellFormed { alphabet } := by
  obtain ⟨rfl, short, distinct⟩ := readHeader_eq_ok_iff.mp accepted
  constructor
  case alphabet_ne_nil =>
    simp [Text.fields, Text.splitWhere_eq_splitOnP, List.splitOnP_ne_nil]
  case alphabet_nodup => exact distinct
  case symbol_length => exact short
  all_goals simp

theorem WellFormed.extend (wellFormed : WellFormed draft) (fits : row.Fits draft)
    (named : row.state ≠ "") (number : Nat) : WellFormed (row.extend draft number) := by
  obtain ⟨fresh, _⟩ := fits
  have states_nodup : (draft.states ++ [row.state]).Nodup :=
    nodup_append_of_fresh wellFormed.states_nodup (List.nodup_singleton _) (by simpa using fresh)
  have accepting_sublist :
      (row.extend draft number).accepting.Sublist (draft.states ++ [row.state]) := by
    unfold Row.extend
    by_cases accepting : row.mark.accepting = true
    · simpa [accepting] using wellFormed.accepting_sublist.append (.refl [row.state])
    · simpa [accepting] using
        wellFormed.accepting_sublist.trans (List.sublist_append_left _ [row.state])
  have inRules : ∀ rule ∈ (row.extend draft number).rules, rule ∈ draft.rules ∨
      rule.source = row.state ∧ rule.symbol ∈ draft.alphabet ∧ rule.target ≠ "" :=
    fun rule membership => (List.mem_append.mp membership).imp_right Row.of_mem_rules
  constructor
  case alphabet_ne_nil => exact wellFormed.alphabet_ne_nil
  case alphabet_nodup => exact wellFormed.alphabet_nodup
  case symbol_length => exact wellFormed.symbol_length
  case states_nodup => exact states_nodup
  case state_ne_empty =>
    exact List.forall_mem_append.mpr ⟨wellFormed.state_ne_empty, by simpa using named⟩
  case start_mem =>
    intro state start
    by_cases marked : row.mark.start = true
    · have isRow : row.state = state := by simpa [Row.extend, marked] using start
      exact List.mem_append_right _ (List.mem_singleton.mpr isRow.symm)
    · have earlier : draft.start? = some state := by simpa [Row.extend, marked] using start
      exact List.mem_append_left _ (wellFormed.start_mem state earlier)
  case accepting_sublist => exact accepting_sublist
  case accepting_nodup => exact accepting_sublist.nodup states_nodup
  case source_mem =>
    intro rule membership
    rcases inRules rule membership with earlier | ⟨source, _⟩
    · exact List.mem_append_left _ (wellFormed.source_mem rule earlier)
    · exact List.mem_append_right _ (List.mem_singleton.mpr source)
  case symbol_mem =>
    intro rule membership
    rcases inRules rule membership with earlier | ⟨_, symbol, _⟩
    · exact wellFormed.symbol_mem rule earlier
    · exact symbol
  case target_ne_empty =>
    intro rule membership
    rcases inRules rule membership with earlier | ⟨_, _, target⟩
    · exact wellFormed.target_ne_empty rule earlier
    · exact target
  case keys_nodup =>
    have keys := Row.keys_rules_sublist draft.alphabet number row
    have distinct : (draft.alphabet.map (row.state, ·)).Nodup :=
      wellFormed.alphabet_nodup.map fun _ _ same => congrArg Prod.snd same
    unfold Row.extend
    rw [List.map_append]
    refine nodup_append_of_fresh wellFormed.keys_nodup (keys.nodup distinct) ?_
    -- The state of the row is new, and all rules before are from other states.
    intro key inRow inDraft
    obtain ⟨symbol, _, rfl⟩ := List.mem_map.mp (keys.subset inRow)
    obtain ⟨rule, earlier, same⟩ := List.mem_map.mp inDraft
    have source : rule.source = row.state := congrArg Prod.fst same
    exact fresh (source ▸ wellFormed.source_mem rule earlier)

theorem WellFormed.addLine (wellFormed : WellFormed draft)
    (added : addLine draft line = .ok extended) : WellFormed extended := by
  obtain ⟨row, read, fits, rfl⟩ := addLine_eq_ok_iff.mp added
  obtain ⟨_, state, _, _, _, _, nonempty, name, _⟩ := exists_fields_of_readRow read
  have named : row.state ≠ "" := by simpa [name] using nonempty
  exact wellFormed.extend fits named line.number

theorem wellFormed_of_read {header : Line} {rows : List Line}
    (accepted : read (header :: rows) = .ok draft) : WellFormed draft := by
  obtain ⟨alphabet, isHeader, added⟩ := read_eq_ok_iff.mp accepted
  exact Draft.holds_of_addLines WellFormed (fun _ _ _ _ => WellFormed.addLine)
    (wellFormed_of_readHeader isHeader) added

/-! ## Refusals -/

def undeclaredTargets (draft : Draft) : List Issue :=
  (draft.rules.filter fun rule => ¬ rule.target ∈ draft.states).map fun rule =>
    .undeclaredTarget rule.target rule.line?

/-- What a draft that is read from a table can be refused for. -/
inductive IsRefusal (policy : Policy) (draft : Draft) : List Issue → Prop where
  | noStates : draft.states = [] → IsRefusal policy draft [.noStates]
  | noStart : draft.start? = none → IsRefusal policy draft [.noStart]
  | undeclaredTargets : undeclaredTargets draft ≠ [] →
      IsRefusal policy draft (undeclaredTargets draft)
  | incomplete : policy.strict = true → draft.missingIssues ≠ [] →
      IsRefusal policy draft draft.missingIssues

section

variable {policy : Policy} {issues : List Issue}

theorem WellFormed.deterministic (wellFormed : WellFormed draft) :
    Deterministic draft.rules := by
  intro rule membership other otherMembership same
  rw [List.inj_on_of_nodup_map wellFormed.keys_nodup membership otherMembership same]

theorem WellFormed.endpoints_eq (wellFormed : WellFormed draft) :
    Check.issues draft .endpoints = undeclaredTargets draft := by
  unfold undeclaredTargets
  rw [map_filter_eq_flatMap]
  refine List.flatMap_congr fun rule membership => ?_
  simp [Check.endpointIssues, wellFormed.source_mem rule membership,
    wellFormed.symbol_mem rule membership]

theorem WellFormed.isRefusal (wellFormed : WellFormed draft)
    (refused : draft.validate policy = .error issues) : IsRefusal policy draft issues := by
  rw [Draft.validate_eq_match] at refused
  cases unmet : Requirement.unmet? policy draft with
  | none => simp [unmet] at refused
  | some requirement =>
      simp only [unmet, Except.error.injEq] at refused
      subst refused
      have found : requirement.issues draft ≠ [] := by simpa using List.find?_some unmet
      have isNotMet : ¬ requirement.IsMet draft := mt Requirement.issues_eq_nil_iff.mpr found
      cases requirement with
      | states =>
          have empty : draft.states = [] := not_not.mp isNotMet
          have noStates : Requirement.issues draft .states = [.noStates] := if_pos empty
          exact noStates ▸ .noStates empty
      | alphabet => exact absurd wellFormed.alphabet_ne_nil isNotMet
      | start =>
          cases start : draft.start? with
          | none =>
              have noStart : Requirement.issues draft .start = [.noStart] := by
                simp [Requirement.issues, Check.issues, Check.startIssues, start]
              exact noStart ▸ .noStart start
          | some state => exact absurd ⟨state, wellFormed.start_mem state start, start⟩ isNotMet
      | accepting => exact absurd (fun state => (wellFormed.accepting_sublist.subset ·)) isNotMet
      | endpoints =>
          have undeclared : Requirement.issues draft .endpoints = undeclaredTargets draft :=
            wellFormed.endpoints_eq
          rw [undeclared] at found ⊢
          exact .undeclaredTargets found
      | determinism => exact absurd wellFormed.deterministic isNotMet
      | completeness =>
          have strict : policy.strict = true := by
            by_contra lenient
            have asked := List.mem_of_find?_eq_some unmet
            simp [Requirement.all, lenient] at asked
          exact .incomplete strict found

theorem IsRefusal.kind_not_mem (isRefusal : IsRefusal policy draft issues) {issue : Issue}
    (membership : issue ∈ issues) :
    issue.kind ∉ [.emptyAlphabet, .invalidAccepting, .nondeterministic] := by
  cases isRefusal with
  | noStates | noStart =>
      rw [List.mem_singleton.mp membership]
      decide
  | undeclaredTargets =>
      obtain ⟨rule, _, rfl⟩ := List.mem_map.mp membership
      simp [Issue.kind]
  | incomplete =>
      obtain ⟨pair, _, rfl⟩ := List.mem_map.mp membership
      simp [Issue.kind]

end

/-- Whatever is read from a table is well-formed, so there is little that it can be refused for. -/
theorem wellFormed_and_isRefusal_of_ofText {marker : CommentMarker} {text : String}
    (isTableForm : Draft.IsTableForm marker text) (read : Draft.ofText marker text = .ok draft) :
    WellFormed draft ∧
      (draft.start? = none ↔
        ∀ line ∈ (Line.significant marker text.toList).tail, ¬ MarksStart line.text) ∧
      ∀ policy issues, draft.validate policy = .error issues →
        IsRefusal policy draft issues ∧
          ∀ issue ∈ issues,
            issue.kind ∉ [.emptyAlphabet, .invalidAccepting, .nondeterministic] := by
  rw [Draft.ofText_of_isTableForm isTableForm] at read
  obtain ⟨header, rows, lines, _⟩ := isTableForm
  rw [lines] at read ⊢
  have wellFormed := wellFormed_of_read read
  obtain ⟨alphabet, _, added⟩ := read_eq_ok_iff.mp read
  refine ⟨wellFormed, ?_, fun policy issues refused => ?_⟩
  · rw [start?_eq_none_iff_of_addLines added]
    exact and_iff_right rfl
  · have isRefusal := wellFormed.isRefusal refused
    exact ⟨isRefusal, fun issue => isRefusal.kind_not_mem⟩

def strayText : String :=
  "# machine\n0, 1\n-, s, s, t\n+, u,, stray\nx, t, u, s"

def strayDraft : Draft where
  states := ["s", "u", "t"]
  alphabet := ["0", "1"]
  start? := some "s"
  accepting := ["u"]
  rules := [⟨"s", "0", "s", some 3⟩, ⟨"s", "1", "t", some 3⟩, ⟨"u", "1", "stray", some 4⟩,
    ⟨"t", "0", "u", some 5⟩, ⟨"t", "1", "s", some 5⟩]

theorem wellFormed_strayDraft :
    Draft.IsTableForm default strayText ∧ Draft.ofText default strayText = .ok strayDraft ∧
      WellFormed strayDraft ∧
      (strayDraft.start? = none ↔
        ∀ line ∈ (Line.significant default strayText.toList).tail, ¬ MarksStart line.text) ∧
      strayDraft.validate {} = .error [.undeclaredTarget "stray" (some 4)] ∧
      IsRefusal {} strayDraft [.undeclaredTarget "stray" (some 4)] := by
  have isTableForm : Draft.IsTableForm default strayText :=
    ⟨⟨2, "0, 1".toList⟩, [⟨3, "-, s, s, t".toList⟩, ⟨4, "+, u,, stray".toList⟩,
      ⟨5, "x, t, u, s".toList⟩], by decide +kernel, by decide +kernel, by decide +kernel⟩
  have read : Draft.ofText default strayText = .ok strayDraft := by decide +kernel
  have refused : strayDraft.validate {} = .error [.undeclaredTarget "stray" (some 4)] := by
    decide +kernel
  obtain ⟨wellFormed, starts, refusals⟩ := wellFormed_and_isRefusal_of_ofText isTableForm read
  exact ⟨isTableForm, read, wellFormed, starts, refused, (refusals {} _ refused).1⟩

end Acceptor.Grid
