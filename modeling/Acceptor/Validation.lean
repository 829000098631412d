import Acceptor.Definition.Draft
import Acceptor.Issue
import Acceptor.OrderedMap
import Acceptor.Settings

/-!
Judging drafts.

The checks are made in a fixed order, and the first that finds anything ends the judgement
with all that it found.  A draft that passes them all may still earn warnings: of missing
transitions, and of states that no chain of rules reaches from the start.
-/

namespace Acceptor

inductive Check where
  | states
  | alphabet
  | start
  | accepting
  | endpoints
  | determinism
  deriving DecidableEq, Repr

namespace Check

def all : List Check :=
  [.states, .alphabet, .start, .accepting, .endpoints, .determinism]

def startIssues (draft : Draft) : List Issue :=
  match draft.start? with
  | none => [.noStart]
  | some state => if state ∈ draft.states then [] else [.undeclaredStart state]

/-- What is not declared of the source, the symbol and the target of a rule. -/
def endpointIssues (draft : Draft) (rule : Rule) : List Issue :=
  (if rule.source ∈ draft.states then [] else [.undeclaredSource rule.source rule.line?]) ++
    (if rule.symbol ∈ draft.alphabet then []
      else [.undeclaredSymbol rule.symbol rule.line?]) ++
    (if rule.target ∈ draft.states then [] else [.undeclaredTarget rule.target rule.line?])

/-- The rules that contradict an earlier one; `seen` holds the first target of each pair
of a state and a symbol. -/
def conflicts (seen : OrderedMap (String × String) String) : List Rule → List Issue
  | [] => []
  | rule :: rest =>
      match seen.get? rule.key with
      | none => conflicts (seen.insert rule.key rule.target) rest
      | some first =>
          if first = rule.target then
            conflicts seen rest
          else
            .conflict rule.source rule.symbol first rule.target rule.line? ::
              conflicts seen rest

def issues (draft : Draft) : Check → List Issue
  | .states => if draft.states = [] then [.noStates] else []
  | .alphabet => if draft.alphabet = [] then [.noAlphabet] else []
  | .start => startIssues draft
  | .accepting =>
      (draft.accepting.filter (· ∉ draft.states)).map Issue.undeclaredAccepting
  | .endpoints => draft.rules.flatMap (endpointIssues draft)
  | .determinism => conflicts .empty draft.rules

end Check

namespace Draft

/-- The pairs of a declared state and a declared symbol that no rule is about. -/
def missing (draft : Draft) : List (String × String) :=
  let defined := draft.rules.map Rule.key
  draft.states.flatMap fun state => (draft.alphabet.map (state, ·)).filter (· ∉ defined)

inductive Leads (rules : List Rule) (first : String) : String → Prop where
  | here : Leads rules first first
  | step {state : String} {rule : Rule} :
      Leads rules first state → rule ∈ rules → rule.source = state →
      Leads rules first rule.target

def freshTargets (rules : List Rule) (seen : List String) : List String :=
  ((rules.filter fun rule => rule.source ∈ seen ∧ rule.target ∉ seen).map
    Rule.target).eraseDups

/-- Adds the states that rules lead to, round after round, until a round adds nothing or
the rounds are used up. -/
def spread (rules : List Rule) : (rounds : Nat) → List String → List String
  | 0, seen => seen
  | rounds + 1, seen =>
      match freshTargets rules seen with
      | [] => seen
      | fresh => spread rules rounds (seen ++ fresh)

/-- The states that chains of rules reach from the start. -/
def reached (draft : Draft) : List String :=
  match draft.start? with
  | none => []
  -- Each round but the last adds the target of a rule, so there are enough rounds.
  | some start => spread draft.rules draft.rules.length [start]

def unreached (draft : Draft) : List String :=
  let reached := draft.reached
  draft.states.filter (· ∉ reached)

def failure? (draft : Draft) : Option (Check × List Issue) :=
  (Check.all.map fun check => (check, check.issues draft)).find? fun found => found.2 ≠ []

def missingIssues (draft : Draft) : List Issue :=
  draft.missing.map fun (state, symbol) => .missing state symbol

/-- Judges a draft: the errors of the first check that fails, or else the warnings. -/
def validate (policy : Policy) (draft : Draft) : Except (List Issue) (List Issue) :=
  match draft.failure? with
  | some (_, issues) => .error issues
  | none =>
      if policy.strict ∧ draft.missing ≠ [] then
        .error draft.missingIssues
      else
        .ok (draft.missingIssues ++
          if policy.reportUnreachable then draft.unreached.map Issue.unreachable else [])

end Draft

end Acceptor
