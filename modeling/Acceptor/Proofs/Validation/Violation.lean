import Mathlib.Data.List.Sort
import Acceptor.Proofs.Validation

/-!
What is asked of a draft, and what can be wrong with it.

`Violation` says what violates a requirement, one thing at a time and each at its place in the
lists of the draft, without the checks that look for it.  `IsListing` says that a list of issues
holds all that there is at any place, in the order of the places; there is only one such list.
-/

namespace Acceptor

/-! ## Requirements -/

inductive Requirement where
  | states
  | alphabet
  | start
  | accepting
  | endpoints
  | determinism
  | completeness
  deriving DecidableEq, Repr

namespace Requirement

def all (policy : Policy) : List Requirement :=
  [.states, .alphabet, .start, .accepting, .endpoints, .determinism] ++
    if policy.strict then [.completeness] else []

def IsMet (draft : Draft) : Requirement → Prop
  | .states => draft.states ≠ []
  | .alphabet => draft.alphabet ≠ []
  | .start => ∃ start ∈ draft.states, draft.start? = some start
  | .accepting => ∀ state ∈ draft.accepting, state ∈ draft.states
  | .endpoints => ∀ rule ∈ draft.rules, rule.source ∈ draft.states ∧
      rule.symbol ∈ draft.alphabet ∧ rule.target ∈ draft.states
  | .determinism => Deterministic draft.rules
  | .completeness => ∀ state ∈ draft.states, ∀ symbol ∈ draft.alphabet,
      ∃ rule ∈ draft.rules, rule.key = (state, symbol)

/-- The requirement is the first that the draft does not meet. -/
def IsFirstUnmet (policy : Policy) (draft : Draft) (requirement : Requirement) : Prop :=
  ¬ requirement.IsMet draft ∧ ∃ before after, all policy = before ++ requirement :: after ∧
    ∀ earlier ∈ before, earlier.IsMet draft

end Requirement

/-! ## Places -/

/-- Where something is wrong: at an entry of a list, and there at a part of the entry or at an
entry of a second list. -/
structure Issue.Place where
  entry : Nat
  part : Nat
  deriving DecidableEq, Repr

def Issue.Place.Before (place other : Place) : Prop :=
  place.entry < other.entry ∨ place.entry = other.entry ∧ place.part < other.part

/-- Something is wrong with the draft at a place. -/
inductive Violation (draft : Draft) : Requirement → Issue.Place → Issue → Prop where
  | noStates : draft.states = [] → Violation draft .states ⟨0, 0⟩ .noStates
  | noAlphabet : draft.alphabet = [] → Violation draft .alphabet ⟨0, 0⟩ .noAlphabet
  | noStart : draft.start? = none → Violation draft .start ⟨0, 0⟩ .noStart
  | undeclaredStart {state : String} :
      draft.start? = some state → state ∉ draft.states →
      Violation draft .start ⟨0, 0⟩ (.undeclaredStart state)
  | undeclaredAccepting {entry : Nat} {state : String} :
      draft.accepting[entry]? = some state → state ∉ draft.states →
      Violation draft .accepting ⟨entry, 0⟩ (.undeclaredAccepting state)
  | undeclaredSource {entry : Nat} {rule : Rule} :
      draft.rules[entry]? = some rule → rule.source ∉ draft.states →
      Violation draft .endpoints ⟨entry, 0⟩ (.undeclaredSource rule.source rule.line?)
  | undeclaredSymbol {entry : Nat} {rule : Rule} :
      draft.rules[entry]? = some rule → rule.symbol ∉ draft.alphabet →
      Violation draft .endpoints ⟨entry, 1⟩ (.undeclaredSymbol rule.symbol rule.line?)
  | undeclaredTarget {entry : Nat} {rule : Rule} :
      draft.rules[entry]? = some rule → rule.target ∉ draft.states →
      Violation draft .endpoints ⟨entry, 2⟩ (.undeclaredTarget rule.target rule.line?)
  /-- The first rule about the same state and symbol has another target. -/
  | conflict {entry firstEntry : Nat} {rule first : Rule} :
      draft.rules[entry]? = some rule → draft.rules[firstEntry]? = some first →
      first.key = rule.key →
      (∀ earlier < firstEntry, ∀ other, draft.rules[earlier]? = some other →
        other.key ≠ rule.key) →
      first.target ≠ rule.target →
      Violation draft .determinism ⟨entry, 0⟩
        (.conflict rule.source rule.symbol first.target rule.target rule.line?)
  | missing {row column : Nat} {state symbol : String} :
      draft.states[row]? = some state → draft.alphabet[column]? = some symbol →
      (∀ rule ∈ draft.rules, rule.key ≠ (state, symbol)) →
      Violation draft .completeness ⟨row, column⟩ (.missing state symbol)

/-- The issues are all that there are at any place, in the order of the places. -/
def IsListing (violates : Issue.Place → Issue → Prop) (issues : List Issue) : Prop :=
  ∃ placed : List (Issue.Place × Issue),
    placed.Pairwise (fun first second => first.1.Before second.1) ∧
      (∀ place issue, (place, issue) ∈ placed ↔ violates place issue) ∧
        issues = placed.map Prod.snd

/-! ## Listings -/

section

variable {Entry : Type} {violates : Issue.Place → Issue → Prop} {issues other : List Issue}

/-- What there is at which place determines the list. -/
theorem IsListing.unique (listing : IsListing violates issues)
    (otherListing : IsListing violates other) : issues = other := by
  obtain ⟨placed, ordered, exact, rfl⟩ := listing
  obtain ⟨otherPlaced, otherOrdered, otherExact, rfl⟩ := otherListing
  have irreflexive : Std.Irrefl fun first second : Issue.Place × Issue =>
      first.1.Before second.1 := by
    constructor
    rintro ⟨place, _⟩ (less | ⟨_, less⟩) <;> exact Nat.lt_irrefl _ less
  have antisymmetric : Std.Antisymm fun first second : Issue.Place × Issue =>
      first.1.Before second.1 := by
    constructor
    rintro ⟨place, _⟩ ⟨otherPlace, _⟩ forth back
    simp only [Issue.Place.Before] at forth back
    omega
  congr 1
  refine List.Pairwise.eq_of_mem_iff ordered otherOrdered ?_
  rintro ⟨place, issue⟩
  rw [exact, otherExact]

/-- What can be found at one place only is found at most once. -/
theorem isListing_of_length_le_one (once : issues.length ≤ 1)
    (exact : ∀ place issue, violates place issue ↔ place = ⟨0, 0⟩ ∧ issue ∈ issues) :
    IsListing violates issues := by
  refine ⟨issues.map (⟨0, 0⟩, ·), ?_, fun place issue => ?_, ?_⟩
  · rcases issues with _ | ⟨issue, _ | ⟨second, rest⟩⟩
    · exact .nil
    · exact List.pairwise_singleton _ _
    · simp at once
  · rw [exact, List.mem_map]
    constructor
    · rintro ⟨_, found, same⟩
      cases same
      exact ⟨rfl, found⟩
    · rintro ⟨rfl, found⟩
      exact ⟨issue, found, rfl⟩
  · rw [List.map_map]
    exact (List.map_id issues).symm

theorem pairwise_zipIdx (entries : List Entry) :
    entries.zipIdx.Pairwise fun first second => first.2 < second.2 := by
  have indices := List.pairwise_lt_range' (s := 0) (n := entries.length) 1
  rwa [← List.zipIdx_map_snd, List.pairwise_map] at indices

/-- What is found entry by entry, and at each entry part by part, is found in order. -/
theorem isListing_flatMap {entries : List Entry} {parts : Entry → List (Nat × Issue)}
    (ordered : ∀ entry, (parts entry).Pairwise fun first second => first.1 < second.1)
    (exact : ∀ place issue, violates place issue ↔
      ∃ entry, entries[place.entry]? = some entry ∧ (place.part, issue) ∈ parts entry) :
    IsListing violates (entries.flatMap fun entry => (parts entry).map Prod.snd) := by
  refine ⟨entries.zipIdx.flatMap fun (entry, index) =>
    (parts entry).map fun (part, issue) => (⟨index, part⟩, issue), ?_, ?_, ?_⟩
  · rw [List.pairwise_flatMap]
    constructor
    · rintro ⟨entry, index⟩ _
      exact List.pairwise_map.mpr ((ordered entry).imp fun less => .inr ⟨rfl, less⟩)
    · refine (pairwise_zipIdx entries).imp fun {first second} less => ?_
      rintro _ inFirst _ inSecond
      obtain ⟨_, _, rfl⟩ := List.mem_map.mp inFirst
      obtain ⟨_, _, rfl⟩ := List.mem_map.mp inSecond
      exact .inl less
  · rintro ⟨entryPlace, part⟩ issue
    rw [exact, List.mem_flatMap]
    constructor
    · rintro ⟨⟨entry, index⟩, indexed, found⟩
      obtain ⟨⟨_, _⟩, inParts, same⟩ := List.mem_map.mp found
      cases same
      exact ⟨entry, List.mem_zipIdx_iff_getElem?.mp indexed, inParts⟩
    · rintro ⟨entry, listed, inParts⟩
      exact ⟨(entry, entryPlace), List.mem_zipIdx_iff_getElem?.mpr listed,
        List.mem_map.mpr ⟨_, inParts, rfl⟩⟩
  · conv_lhs => rw [← List.zipIdx_map_fst 0 entries, List.flatMap_map]
    rw [List.map_flatMap]
    refine List.flatMap_congr fun entry _ => ?_
    rw [List.map_map]
    rfl

end

end Acceptor
