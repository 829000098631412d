import Mathlib.Logic.Relation
import Acceptor.Definition
import Acceptor.Proofs.Validation
import Acceptor.Proofs.Validation.Reached

/-!
Loading definitions with the descendants of graphs left to whatever computes them.

`loadBy` takes the function that finds descendants as an argument.  It is `load` for every
function that meets `AreDescendants`, and `spreadDescendants` is one that does.
-/

namespace Acceptor

/-! ## Graphs -/

structure Digraph where
  nodes : List String
  edges : List (String × String)
  deriving DecidableEq, Repr

namespace Digraph

structure IsProper (graph : Digraph) : Prop where
  source_mem : ∀ edge ∈ graph.edges, edge.1 ∈ graph.nodes
  target_mem : ∀ edge ∈ graph.edges, edge.2 ∈ graph.nodes

def Connects (graph : Digraph) : String → String → Prop :=
  Relation.ReflTransGen fun source target => (source, target) ∈ graph.edges

/-- The function gives the nodes, other than a node itself, that edges lead to from it. -/
def AreDescendants (descendants : Digraph → String → List String) : Prop :=
  ∀ graph first, graph.IsProper → first ∈ graph.nodes → ∀ node,
    node ∈ descendants graph first ↔ node ≠ first ∧ graph.Connects first node

def rules (graph : Digraph) : List Rule :=
  graph.edges.map fun (source, target) => { source, symbol := "", target }

/-- The descendants of a node, found by spreading along the edges. -/
def spreadDescendants (graph : Digraph) (first : String) : List String :=
  (Draft.spread graph.rules graph.rules.length [first]).filter (· ≠ first)

end Digraph

namespace Draft

def graph (draft : Draft) : Digraph where
  nodes := draft.states
  edges := draft.rules.map fun rule => (rule.source, rule.target)

theorem connects_iff_leads {graph : Digraph} {rules : List Rule} {first state : String}
    (edges : graph.edges = rules.map fun rule => (rule.source, rule.target)) :
    graph.Connects first state ↔ Leads rules first state := by
  constructor
  · intro connects
    induction connects with
    | refl => exact .here
    | tail _ edge inductionHypothesis =>
        rw [edges] at edge
        obtain ⟨rule, isRule, ends⟩ := List.mem_map.mp edge
        obtain ⟨source, rfl⟩ := Prod.mk.inj ends
        exact .step inductionHypothesis isRule source
  · intro leads
    induction leads with
    | here => exact .refl
    | step _ isRule source inductionHypothesis =>
        apply inductionHypothesis.tail
        rw [edges, ← source]
        exact List.mem_map_of_mem isRule

end Draft

theorem Digraph.areDescendants_spreadDescendants :
    AreDescendants spreadDescendants := by
  intro graph first _ _ node
  have edges : graph.edges = graph.rules.map fun rule => (rule.source, rule.target) := by
    rw [rules, List.map_map]
    exact (List.map_id _).symm
  rw [spreadDescendants, List.mem_filter, decide_eq_true_eq, Draft.mem_spread_iff,
    Draft.connects_iff_leads edges]
  exact and_comm

/-! ## Loading with descendants -/

/-- The declared states that are neither the start nor one of its descendants. -/
def Draft.unreachedBy (descendants : Digraph → String → List String) (draft : Draft) :
    List String :=
  match draft.start? with
  | none => draft.states
  | some start => draft.states.filter (· ∉ start :: descendants draft.graph start)

def Draft.validateBy (descendants : Digraph → String → List String) (policy : Policy)
    (draft : Draft) : Except (List Issue) (List Issue) :=
  match draft.failure? with
  | some (_, issues) => .error issues
  | none =>
      if policy.strict ∧ draft.missing ≠ [] then
        .error draft.missingIssues
      else
        .ok (draft.missingIssues ++
          if policy.reportUnreachable then
            (draft.unreachedBy descendants).map Issue.unreachable
          else [])

/-- Reads the text of a definition and makes an automaton of it, as `load` does. -/
def Definition.loadBy (descendants : Digraph → String → List String) (marker : CommentMarker)
    (policy : Policy) (text : String) : Except LoadError Loaded :=
  match Draft.ofText marker text with
  | .error line => .error (.malformed line)
  | .ok draft =>
      match draft.validateBy descendants policy with
      | .error issues => .error (.invalid issues)
      | .ok warnings =>
          match draft.build with
          | .error fault => .error (.unbuildable fault)
          | .ok automaton => .ok { automaton, warnings }

section
variable {descendants : Digraph → String → List String}
  (documented : Digraph.AreDescendants descendants)
include documented

theorem Draft.Sound.unreachedBy_eq {draft : Draft} (sound : draft.Sound) :
    draft.unreachedBy descendants = draft.unreached := by
  obtain ⟨start, declared, given⟩ := sound.start_mem
  have proper : draft.graph.IsProper := by
    constructor
    · intro edge isEdge
      obtain ⟨rule, isRule, rfl⟩ := List.mem_map.mp isEdge
      exact sound.source_mem rule isRule
    · intro edge isEdge
      obtain ⟨rule, isRule, rfl⟩ := List.mem_map.mp isEdge
      exact sound.target_mem rule isRule
  have found (state : String) :
      state ∈ start :: descendants draft.graph start ↔ state ∈ draft.reached := by
    rw [List.mem_cons, documented draft.graph start proper declared, connects_iff_leads rfl,
      mem_reached_iff given]
    constructor
    · rintro (rfl | ⟨_, leads⟩)
      · exact .here
      · exact leads
    · intro leads
      by_cases same : state = start
      · exact .inl same
      · exact .inr ⟨same, leads⟩
  rw [unreachedBy, given, unreached]
  apply List.filter_congr
  intro state _
  simp only [found]

theorem Draft.validateBy_eq_validate (policy : Policy) (draft : Draft) :
    draft.validateBy descendants policy = draft.validate policy := by
  unfold validateBy validate
  cases failed : draft.failure? with
  | some found => rfl
  | none =>
      have sound := failure?_eq_none_iff.mp failed
      simp only [sound.unreachedBy_eq documented]

theorem Definition.loadBy_eq_load (marker : CommentMarker) (policy : Policy)
    (text : String) : loadBy descendants marker policy text = load marker policy text := by
  unfold loadBy load loadDraft
  cases Draft.ofText marker text with
  | error line => rfl
  | ok draft =>
      have judged := Draft.validateBy_eq_validate documented policy draft
      cases validated : draft.validate policy with
      | error issues => simp only [judged, validated]
      | ok warnings => cases built : draft.build <;> simp only [judged, validated, built]

end

end Acceptor
