import Acceptor.Proofs.Validation.Violation

/-!
What the checks of a draft find: for each of them all that violates its requirement, in order.
-/

namespace Acceptor

variable {draft : Draft}

/-! ## Single entries -/

/-- An issue at a part of an entry, unless all is well there. -/
def issueUnless (well : Prop) [Decidable well] (part : Nat) (issue : Issue) :
    List (Nat × Issue) :=
  if well then [] else [(part, issue)]

theorem mem_issueUnless_iff {well : Prop} [Decidable well] {part : Nat} {issue : Issue}
    {found : Nat × Issue} :
    found ∈ issueUnless well part issue ↔ ¬ well ∧ found = (part, issue) := by
  unfold issueUnless
  split <;> simp [*]

theorem pairwise_issueUnless (well : Prop) [Decidable well] (part : Nat) (issue : Issue)
    (relation : Nat × Issue → Nat × Issue → Prop) :
    (issueUnless well part issue).Pairwise relation := by
  unfold issueUnless
  split <;> simp

theorem map_snd_issueUnless (well : Prop) [Decidable well] (part : Nat) (issue : Issue) :
    (issueUnless well part issue).map Prod.snd = if well then [] else [issue] := by
  unfold issueUnless
  split <;> rfl

theorem map_filter_eq_flatMap {Entry : Type} (entries : List Entry) (well : Entry → Prop)
    [DecidablePred well] (issue : Entry → Issue) :
    (entries.filter fun entry => ¬ well entry).map issue =
      entries.flatMap fun entry => if well entry then [] else [issue entry] := by
  induction entries with
  | nil => rfl
  | cons entry rest inductionHypothesis =>
      rw [List.flatMap_cons, ← inductionHypothesis, List.filter_cons]
      by_cases isWell : well entry <;> simp [isWell]

/-! ## Lists as a whole -/

/-- A check that can find one thing only. -/
theorem isListing_ite {bad : Prop} [Decidable bad] {issue : Issue}
    {violates : Issue.Place → Issue → Prop}
    (exact : ∀ place found, violates place found ↔ bad ∧ place = ⟨0, 0⟩ ∧ found = issue) :
    IsListing violates (if bad then [issue] else []) := by
  have once : (if bad then [issue] else []).length ≤ 1 := by split <;> simp
  refine isListing_of_length_le_one once fun place found => ?_
  rw [exact, List.mem_ite_nil_right, List.mem_singleton, and_left_comm]

theorem isListing_states :
    IsListing (Violation draft .states) (Check.issues draft .states) := by
  refine isListing_ite fun place issue => ?_
  constructor
  · intro violation
    cases violation with
    | noStates empty => exact ⟨empty, rfl, rfl⟩
  · rintro ⟨empty, rfl, rfl⟩
    exact .noStates empty

theorem isListing_alphabet :
    IsListing (Violation draft .alphabet) (Check.issues draft .alphabet) := by
  refine isListing_ite fun place issue => ?_
  constructor
  · intro violation
    cases violation with
    | noAlphabet empty => exact ⟨empty, rfl, rfl⟩
  · rintro ⟨empty, rfl, rfl⟩
    exact .noAlphabet empty

theorem isListing_start :
    IsListing (Violation draft .start) (Check.issues draft .start) := by
  change IsListing _ (Check.startIssues draft)
  unfold Check.startIssues
  cases given : draft.start? with
  | none =>
      refine isListing_of_length_le_one (by simp) fun place issue => ?_
      constructor
      · intro violation
        cases violation with
        | noStart _ => simp
        | undeclaredStart other _ =>
            rw [given] at other
            contradiction
      · rintro ⟨rfl, found⟩
        cases List.mem_singleton.mp found
        exact .noStart given
  | some start =>
      dsimp only
      rw [← ite_not]
      refine isListing_ite fun place issue => ?_
      constructor
      · intro violation
        cases violation with
        | noStart absent =>
            rw [given] at absent
            contradiction
        | undeclaredStart other undeclared =>
            cases given.symm.trans other
            exact ⟨undeclared, rfl, rfl⟩
      · rintro ⟨undeclared, rfl, rfl⟩
        exact .undeclaredStart given undeclared

theorem isListing_accepting :
    IsListing (Violation draft .accepting) (Check.issues draft .accepting) := by
  have found : Check.issues draft .accepting = draft.accepting.flatMap fun state =>
      (issueUnless (state ∈ draft.states) 0 (.undeclaredAccepting state)).map Prod.snd := by
    simp only [map_snd_issueUnless]
    exact map_filter_eq_flatMap draft.accepting (· ∈ draft.states) Issue.undeclaredAccepting
  rw [found]
  refine isListing_flatMap (fun _ => pairwise_issueUnless _ _ _ _) fun place issue => ?_
  simp only [mem_issueUnless_iff, Prod.mk.injEq]
  constructor
  · intro violation
    cases violation with
    | undeclaredAccepting listed undeclared => exact ⟨_, listed, undeclared, rfl, rfl⟩
  · rcases place with ⟨entry, part⟩
    rintro ⟨state, listed, undeclared, rfl, rfl⟩
    exact .undeclaredAccepting listed undeclared

/-! ## Single rules -/

/-- What is wrong with the source, the symbol and the target of a rule. -/
def endpointParts (draft : Draft) (rule : Rule) : List (Nat × Issue) :=
  issueUnless (rule.source ∈ draft.states) 0 (.undeclaredSource rule.source rule.line?) ++
    issueUnless (rule.symbol ∈ draft.alphabet) 1 (.undeclaredSymbol rule.symbol rule.line?) ++
    issueUnless (rule.target ∈ draft.states) 2 (.undeclaredTarget rule.target rule.line?)

theorem map_snd_endpointParts (draft : Draft) (rule : Rule) :
    (endpointParts draft rule).map Prod.snd = Check.endpointIssues draft rule := by
  simp only [endpointParts, Check.endpointIssues, List.map_append, map_snd_issueUnless]

theorem pairwise_endpointParts (draft : Draft) (rule : Rule) :
    (endpointParts draft rule).Pairwise fun first second => first.1 < second.1 := by
  unfold endpointParts
  simp only [List.pairwise_append, List.mem_append, mem_issueUnless_iff]
  refine ⟨⟨pairwise_issueUnless _ _ _ _, pairwise_issueUnless _ _ _ _, ?_⟩,
    pairwise_issueUnless _ _ _ _, ?_⟩
  · rintro _ ⟨_, rfl⟩ _ ⟨_, rfl⟩
    exact Nat.zero_lt_one
  · rintro _ (⟨_, rfl⟩ | ⟨_, rfl⟩) _ ⟨_, rfl⟩
    · exact Nat.zero_lt_two
    · exact Nat.one_lt_two

theorem isListing_endpoints :
    IsListing (Violation draft .endpoints) (Check.issues draft .endpoints) := by
  have found : Check.issues draft .endpoints =
      draft.rules.flatMap fun rule => (endpointParts draft rule).map Prod.snd :=
    List.flatMap_congr fun rule _ => (map_snd_endpointParts draft rule).symm
  rw [found]
  refine isListing_flatMap (pairwise_endpointParts draft) fun place issue => ?_
  simp only [endpointParts, List.mem_append, mem_issueUnless_iff, Prod.mk.injEq]
  constructor
  · intro violation
    cases violation with
    | undeclaredSource listed undeclared =>
        exact ⟨_, listed, .inl (.inl ⟨undeclared, rfl, rfl⟩)⟩
    | undeclaredSymbol listed undeclared =>
        exact ⟨_, listed, .inl (.inr ⟨undeclared, rfl, rfl⟩)⟩
    | undeclaredTarget listed undeclared =>
        exact ⟨_, listed, .inr ⟨undeclared, rfl, rfl⟩⟩
  · rcases place with ⟨entry, part⟩
    rintro ⟨rule, listed,
      (⟨undeclared, rfl, rfl⟩ | ⟨undeclared, rfl, rfl⟩) | ⟨undeclared, rfl, rfl⟩⟩
    · exact .undeclaredSource listed undeclared
    · exact .undeclaredSymbol listed undeclared
    · exact .undeclaredTarget listed undeclared

/-! ## Conflicts -/

def firstAbout? (key : String × String) (rules : List Rule) : Option Rule :=
  rules.find? (·.key = key)

/-- What is wrong with a rule beside the first rule about the same state and symbol. -/
def clash (rules : List Rule) (rule : Rule) : List (Nat × Issue) :=
  match firstAbout? rule.key rules with
  | none => []
  | some first =>
      issueUnless (first.target = rule.target) 0
        (.conflict rule.source rule.symbol first.target rule.target rule.line?)

theorem firstAbout?_eq_some_iff {key : String × String} {rules : List Rule} {first : Rule} :
    firstAbout? key rules = some first ↔ first.key = key ∧ ∃ entry : Nat,
      rules[entry]? = some first ∧ ∀ earlier < entry, ∀ other, rules[earlier]? = some other →
        other.key ≠ key := by
  rw [firstAbout?, List.find?_eq_some_iff_getElem, decide_eq_true_eq]
  refine and_congr_right fun _ => ?_
  constructor
  · rintro ⟨entry, bound, rfl, before⟩
    refine ⟨entry, List.getElem?_eq_getElem bound, fun earlier less other listed => ?_⟩
    obtain ⟨_, rfl⟩ := List.getElem?_eq_some_iff.mp listed
    simpa using before earlier less
  · rintro ⟨entry, listed, before⟩
    obtain ⟨bound, rfl⟩ := List.getElem?_eq_some_iff.mp listed
    refine ⟨entry, bound, rfl, fun earlier less => ?_⟩
    simpa using before earlier less _ (List.getElem?_eq_getElem (less.trans bound))

/-- The invariant of the search for conflicts: `seen` holds the target of the first of the
earlier rules about each state and symbol. -/
def HoldsFirst (seen : OrderedMap (String × String) String) (earlier : List Rule) : Prop :=
  ∀ key, seen.get? key = (firstAbout? key earlier).map Rule.target

theorem HoldsFirst.concat {seen : OrderedMap (String × String) String} {earlier : List Rule}
    (holds : HoldsFirst seen earlier) {rule : Rule} (known : seen.get? rule.key ≠ none) :
    HoldsFirst seen (earlier ++ [rule]) := by
  intro key
  rw [holds key, firstAbout?, firstAbout?, List.find?_append]
  cases found : earlier.find? (·.key = key) with
  | some first => rfl
  | none =>
      have different : rule.key ≠ key := by
        rintro rfl
        rw [holds, firstAbout?, found] at known
        exact known rfl
      simp [different]

theorem HoldsFirst.insert {seen : OrderedMap (String × String) String} {earlier : List Rule}
    (holds : HoldsFirst seen earlier) {rule : Rule} (fresh : seen.get? rule.key = none) :
    HoldsFirst (seen.insert rule.key rule.target) (earlier ++ [rule]) := by
  intro key
  rw [OrderedMap.get?_insert, firstAbout?, List.find?_append]
  by_cases same : rule.key = key
  · subst same
    rw [holds, Option.map_eq_none_iff, firstAbout?] at fresh
    simp [fresh]
  · rw [if_neg same, holds, firstAbout?]
    simp [same]

theorem conflicts_eq_flatMap {seen : OrderedMap (String × String) String}
    {earlier rules : List Rule} (holds : HoldsFirst seen earlier) :
    Check.conflicts seen rules =
      rules.flatMap fun rule => (clash (earlier ++ rules) rule).map Prod.snd := by
  -- The rules that were passed go over to `earlier` one by one.
  induction rules generalizing seen earlier with
  | nil => rfl
  | cons rule rest inductionHypothesis =>
      have regrouped : earlier ++ rule :: rest = (earlier ++ [rule]) ++ rest := by simp
      have firstTarget : seen.get? rule.key =
          (earlier.find? (·.key = rule.key)).map Rule.target := holds rule.key
      unfold Check.conflicts
      rw [List.flatMap_cons, clash, firstAbout?, List.find?_append]
      cases found : earlier.find? (·.key = rule.key) with
      | none =>
          have fresh : seen.get? rule.key = none := by rw [firstTarget, found]; rfl
          rw [fresh, regrouped]
          simp only [inductionHypothesis (holds.insert fresh)]
          simp [issueUnless]
      | some first =>
          have known : seen.get? rule.key = some first.target := by rw [firstTarget, found]; rfl
          have kept : HoldsFirst seen (earlier ++ [rule]) := holds.concat (by simp [known])
          rw [known, regrouped]
          simp only [inductionHypothesis kept]
          by_cases same : first.target = rule.target <;> simp [issueUnless, same]

theorem isListing_determinism :
    IsListing (Violation draft .determinism) (Check.issues draft .determinism) := by
  have holds : HoldsFirst .empty [] := fun _ => rfl
  unfold Check.issues
  rw [conflicts_eq_flatMap holds, List.nil_append]
  refine isListing_flatMap (fun rule => ?_) fun place issue => ?_
  · unfold clash
    split
    · exact .nil
    · exact pairwise_issueUnless _ _ _ _
  · constructor
    · intro violation
      cases violation with
      | conflict listed firstListed sameKey before different =>
          refine ⟨_, listed, ?_⟩
          rw [clash, firstAbout?_eq_some_iff.mpr ⟨sameKey, _, firstListed, before⟩]
          exact mem_issueUnless_iff.mpr ⟨different, rfl⟩
    · rcases place with ⟨entry, part⟩
      rintro ⟨rule, listed, found⟩
      unfold clash at found
      split at found
      · contradiction
      next first isFirst =>
        obtain ⟨sameKey, firstEntry, firstListed, before⟩ := firstAbout?_eq_some_iff.mp isFirst
        obtain ⟨different, same⟩ := mem_issueUnless_iff.mp found
        cases same
        exact .conflict listed firstListed sameKey before different

/-! ## Missing transitions -/

/-- What is missing of the transitions from a state, at the symbols that they are missed on. -/
def missingParts (draft : Draft) (state : String) : List (Nat × Issue) :=
  draft.alphabet.zipIdx.flatMap fun entry =>
    issueUnless (∃ rule ∈ draft.rules, rule.key = (state, entry.1)) entry.2
      (.missing state entry.1)

theorem mem_missingParts_iff {state : String} {column : Nat} {issue : Issue} :
    (column, issue) ∈ missingParts draft state ↔ ∃ symbol,
      draft.alphabet[column]? = some symbol ∧
        (∀ rule ∈ draft.rules, rule.key ≠ (state, symbol)) ∧ issue = .missing state symbol := by
  simp only [missingParts, List.mem_flatMap, mem_issueUnless_iff, not_exists, not_and,
    Prod.mk.injEq]
  constructor
  · rintro ⟨⟨symbol, _⟩, indexed, missing, rfl, rfl⟩
    exact ⟨symbol, List.mem_zipIdx_iff_getElem?.mp indexed, missing, rfl⟩
  · rintro ⟨symbol, listed, missing, rfl⟩
    exact ⟨(symbol, column), List.mem_zipIdx_iff_getElem?.mpr listed, missing, rfl, rfl⟩

theorem pairwise_missingParts (draft : Draft) (state : String) :
    (missingParts draft state).Pairwise fun first second => first.1 < second.1 := by
  unfold missingParts
  rw [List.pairwise_flatMap]
  refine ⟨fun _ _ => pairwise_issueUnless _ _ _ _, ?_⟩
  refine (pairwise_zipIdx draft.alphabet).imp fun less => ?_
  intro _ inFirst _ inSecond
  obtain ⟨_, rfl⟩ := mem_issueUnless_iff.mp inFirst
  obtain ⟨_, rfl⟩ := mem_issueUnless_iff.mp inSecond
  exact less

theorem missingIssues_eq_flatMap (draft : Draft) :
    draft.missingIssues =
      draft.states.flatMap fun state => (missingParts draft state).map Prod.snd := by
  unfold Draft.missingIssues Draft.missing
  rw [List.map_flatMap]
  refine List.flatMap_congr fun state _ => ?_
  have row := map_filter_eq_flatMap (draft.alphabet.map (state, ·))
    (· ∈ draft.rules.map Rule.key) fun missed => .missing missed.1 missed.2
  rw [row, List.flatMap_map]
  conv_lhs => rw [← List.zipIdx_map_fst 0 draft.alphabet, List.flatMap_map]
  simp only [missingParts, List.map_flatMap, map_snd_issueUnless, List.mem_map]

theorem isListing_completeness :
    IsListing (Violation draft .completeness) draft.missingIssues := by
  rw [missingIssues_eq_flatMap]
  refine isListing_flatMap (pairwise_missingParts draft) fun place issue => ?_
  simp only [mem_missingParts_iff]
  constructor
  · intro violation
    cases violation with
    | missing stateListed symbolListed missing =>
        exact ⟨_, stateListed, _, symbolListed, missing, rfl⟩
  · rintro ⟨state, stateListed, symbol, symbolListed, missing, rfl⟩
    exact .missing stateListed symbolListed missing

end Acceptor
